import JavaDeps.Files.Tree
import JavaDeps.Proofs.Path.Spelling
import JavaDeps.Proofs.Sorted.Membership

/-!
# Directories and walks

Which directory a path leads to depends on the components of the path alone, not on its spelling
(`directoryAt?_eq`): a piece that does not count asks for a directory, and so does whatever comes
after it. In a tree, where everything lies in a directory, names lead down to the place that they
spell (`follow_names`). **A walk meets what lies below its start and is not skipped on the way**
(`filterMap_walk`).
-/

namespace JavaDeps.Files

open JavaDeps.Path (bodyComponent? headComponent?)

variable {fs : Files}

/-! ### Trees -/

/-- Whether the entries are those of a tree: each has a name and lies in a directory. -/
structure WellFormed (fs : Files) : Prop where
  names : ∀ e ∈ fs.entries.entries, ∀ s ∈ e.1, IsName s
  inDirectory : ∀ e ∈ fs.entries.entries, e.1 ≠ [] → fs.entryAt? e.1.dropLast = some .directory

theorem get?_eq_some_iff {place : Place} {entry : Entry} :
    fs.entries.get? place = some entry ↔ (place, entry) ∈ fs.entries.entries := by
  rw [SortedMap.get?_eq_some_iff]
  constructor
  · rintro ⟨place', hmem, hcompare⟩
    rwa [Std.LawfulEqOrd.eq_of_compare hcompare]
  · exact fun hmem ↦ ⟨place, hmem, Std.ReflOrd.compare_self⟩

theorem mem_entries_of_entryAt? {place : Place} {entry : Entry} (hplace : place ≠ [])
    (h : fs.entryAt? place = some entry) : (place, entry) ∈ fs.entries.entries := by
  rw [entryAt?, if_neg (by simpa using hplace)] at h
  exact get?_eq_some_iff.1 h

theorem entryAt?_of_mem {place : Place} {entry : Entry} (hplace : place ≠ [])
    (h : (place, entry) ∈ fs.entries.entries) : fs.entryAt? place = some entry := by
  rw [entryAt?, if_neg (by simpa using hplace)]
  exact get?_eq_some_iff.2 h

/-- Whatever something lies below is a directory. -/
theorem WellFormed.directory_above (hfs : fs.WellFormed) {place : Place} {names : List String}
    {entry : Entry} (hnames : names ≠ []) (h : fs.entryAt? (place ++ names) = some entry) :
    fs.entryAt? place = some .directory := by
  induction names using List.reverseRecOn generalizing entry with
  | nil => exact absurd rfl hnames
  | append_singleton names s ih =>
    have hne : place ++ (names ++ [s]) ≠ [] := by simp
    have habove := hfs.inDirectory _ (mem_entries_of_entryAt? hne h) hne
    rw [← List.append_assoc, List.dropLast_concat] at habove
    by_cases hempty : names = []
    · rwa [hempty, List.append_nil] at habove
    · exact ih hempty habove

/-- On the way to something there are directories only. -/
theorem WellFormed.exists_above (hfs : fs.WellFormed) {place : Place} {above names : List String}
    {entry : Entry} (hne : above ≠ []) (habove : above <+: names)
    (h : (place ++ names, entry) ∈ fs.entries.entries) :
    ∃ entry', (place ++ above, entry') ∈ fs.entries.entries ∧
      (above ≠ names → entry' = .directory) := by
  obtain ⟨rest, rfl⟩ := habove
  by_cases hrest : rest = []
  · subst hrest
    rw [List.append_nil] at h ⊢
    exact ⟨entry, h, fun hne ↦ absurd rfl hne⟩
  · rw [← List.append_assoc] at h
    have hthere := entryAt?_of_mem (by simp [hne]) h
    exact ⟨.directory, mem_entries_of_entryAt? (by simp [hne]) (hfs.directory_above hrest hthere),
      fun _ ↦ rfl⟩

/-! ### Following components -/

/-- The place one step further. -/
def move (place : Place) : Component → Place
  | .root => []
  | .current => place
  | .parent => place.dropLast
  | .normal s => place ++ [s]

/-- The directory to which components lead from a place, through directories. -/
def follow (fs : Files) (place : Place) : List Component → Option Place
  | [] => if fs.entryAt? place = some .directory then some place else none
  | c :: cs => if fs.entryAt? place = some .directory then fs.follow (move place c) cs else none

/-- Where components start. -/
def start (fs : Files) (cs : List Component) : Place :=
  if cs.head? = some .root then [] else fs.current

/-- The directory to which a path leads. -/
def directoryAt? (fs : Files) (p : Path) : Option Place :=
  match fs.find p with
  | .ok (place, .directory) => some place
  | _ => none

theorem follow_of_not_directory {place : Place} (h : fs.entryAt? place ≠ some .directory)
    (cs : List Component) : fs.follow place cs = none := by
  cases cs with
  | nil => exact if_neg h
  | cons c cs => exact if_neg h

theorem follow_cons {place : Place} (h : fs.entryAt? place = some .directory) (c : Component)
    (cs : List Component) : fs.follow place (c :: cs) = fs.follow (move place c) cs :=
  if_pos h

/-- A step that stays where it is changes nothing. -/
theorem follow_cons_of_stay {place : Place} {c : Component} (h : move place c = place)
    (cs : List Component) : fs.follow place (c :: cs) = fs.follow place cs := by
  by_cases hdirectory : fs.entryAt? place = some .directory
  · rw [follow_cons hdirectory, h]
  · rw [follow_of_not_directory hdirectory, follow_of_not_directory hdirectory]

/-- A way in two parts leads where the second part leads from the end of the first. -/
theorem follow_append (place : Place) (cs more : List Component) :
    fs.follow place (cs ++ more) = (fs.follow place cs).bind (fs.follow · more) := by
  induction cs generalizing place with
  | nil =>
    by_cases hdirectory : fs.entryAt? place = some .directory
    · rw [List.nil_append, follow, if_pos hdirectory, Option.bind_some]
    · rw [follow_of_not_directory hdirectory, follow_of_not_directory hdirectory, Option.bind_none]
  | cons c cs ih =>
    by_cases hdirectory : fs.entryAt? place = some .directory
    · rw [List.cons_append, follow_cons hdirectory, follow_cons hdirectory, ih]
    · rw [follow_of_not_directory hdirectory, follow_of_not_directory hdirectory, Option.bind_none]

/-- **Names lead down to the place that they spell.** -/
theorem follow_names (hfs : fs.WellFormed) (place : Place) (names : List String) :
    fs.follow place (names.map .normal) =
      if fs.entryAt? (place ++ names) = some .directory then some (place ++ names) else none := by
  induction names generalizing place with
  | nil => rw [List.append_nil, List.map_nil, follow]
  | cons s names ih =>
    by_cases hdirectory : fs.entryAt? place = some .directory
    · rw [List.map_cons, follow_cons hdirectory, ih, move, List.append_assoc, List.singleton_append]
    · rw [follow_of_not_directory hdirectory, if_neg fun h ↦
        hdirectory (hfs.directory_above (List.cons_ne_nil _ _) h)]

/-! ### Paths -/

/-- The directory at the end of a way, if there is one. -/
def landing (fs : Files) : Except Fault Place → Option Place
  | .ok place => if fs.entryAt? place = some .directory then some place else none
  | .error _ => none

/-- A path leads to a directory just if it can be located and what is there is one. -/
theorem directoryAt?_eq_landing (p : Path) : fs.directoryAt? p = fs.landing (fs.locate p) := by
  rw [directoryAt?, find]
  rcases fs.locate p with fault | place
  · rfl
  · simp only [Except.bind, bind, landing]
    rcases fs.entryAt? place with - | - | - <;> rfl

/-- From a directory, a piece that does not count stays and any other one moves. -/
theorem step_of_directory {place : Place} (h : fs.entryAt? place = some .directory)
    (piece : List Char) :
    fs.step place piece = .ok ((bodyComponent? piece).elim place (move place)) := by
  by_cases hempty : piece = []
  · simp [hempty, step, h, bodyComponent?]
  by_cases hdot : piece = ['.']
  · simp [hdot, step, h, bodyComponent?]
  by_cases hdots : piece = ['.', '.']
  · simp [hdots, step, h, bodyComponent?, move]
  -- any other piece is a name
  simp [step, h, bodyComponent?, move]

/-- From what is no directory, every piece is a fault. -/
theorem step_of_not_directory {place : Place} (h : fs.entryAt? place ≠ some .directory)
    (piece : List Char) : ∃ fault, fs.step place piece = .error fault := by
  unfold step
  split
  · exact ⟨_, rfl⟩
  · exact ⟨_, rfl⟩
  · contradiction

/-- **Pieces lead to the directory to which their components lead.** -/
theorem landing_foldlM (pieces : List (List Char)) (place : Place) :
    fs.landing (pieces.foldlM (fun place name ↦ fs.step place name) place) =
      fs.follow place (pieces.filterMap bodyComponent?) := by
  induction pieces generalizing place with
  | nil => rfl
  | cons piece pieces ih =>
    rw [List.foldlM_cons]
    by_cases hdirectory : fs.entryAt? place = some .directory
    · rw [step_of_directory hdirectory]
      rcases hpiece : bodyComponent? piece with - | c
      · rw [List.filterMap_cons_none hpiece]
        exact ih place
      · rw [List.filterMap_cons_some hpiece, follow_cons hdirectory]
        exact ih (move place c)
    · obtain ⟨fault, hfault⟩ := step_of_not_directory hdirectory piece
      rw [hfault, follow_of_not_directory hdirectory]
      rfl

/-- A path that is not empty is located piece by piece, from where its components start. -/
theorem locate_eq {p : Path} (hp : p.text ≠ "") :
    fs.locate p =
      p.segments.foldlM (fun place name ↦ fs.step place name) (fs.start p.components) := by
  have hempty : p.text.isEmpty = false := by simpa using hp
  rw [locate, hempty, if_neg Bool.false_ne_true, ← Path.segments, start]
  simp only [Path.head?_components_eq_root_iff]

/-- **Which directory a path leads to depends on its components alone.** -/
theorem directoryAt?_eq {p : Path} (hp : p.text ≠ "") :
    fs.directoryAt? p = fs.follow (fs.start p.components) p.components := by
  rw [directoryAt?_eq_landing, locate_eq hp, landing_foldlM, Path.segments_eq]
  -- before the first separator, a piece that does not count shows as the root or as `.`
  by_cases hcounts : p.pieces.head ≠ [] ∧ p.pieces.head ≠ ['.']
  · rw [Path.components, Path.headComponent?_eq hcounts, List.filterMap_cons]
    cases bodyComponent? p.pieces.head <;> rfl
  · rw [not_and_or, not_not, not_not] at hcounts
    rcases hcounts with hhead | hhead
    · have hbody : p.pieces.body ≠ [] := fun hbody ↦
        hp (Path.segments_eq_singleton_nil.1 (by rw [Path.segments_eq, hhead, hbody]))
      have habsolute := Path.isAbsolute_iff.2 ⟨hhead, hbody⟩
      have hstart : fs.start p.components = [] :=
        if_pos (Path.head?_components_eq_root_iff.2 habsolute)
      rw [hstart, Path.components, habsolute, hhead]
      exact (follow_cons_of_stay rfl _).symm
    · rw [Path.components, hhead]
      exact (follow_cons_of_stay rfl _).symm

theorem isDirectory_eq (p : Path) : fs.isDirectory p = (fs.directoryAt? p).isSome := by
  rw [isDirectory, directoryAt?]
  rcases fs.find p with - | ⟨place, - | -⟩ <;> rfl

/-- **What is a directory is no file**, however it is spelled. -/
theorem isFile_eq_false_of_same {p q : Path} (hq : fs.isDirectory q = true)
    (hne : q.components ≠ []) (hsame : q.same p = true) : fs.isFile p = false := by
  have hcomponents : q.components = p.components := beq_iff_eq.1 hsame
  have hp : fs.directoryAt? p = _ := directoryAt?_eq (Path.text_ne_empty (hcomponents ▸ hne))
  rw [← hcomponents, ← directoryAt?_eq (Path.text_ne_empty hne)] at hp
  rw [isDirectory_eq, ← hp, directoryAt?] at hq
  rw [isFile]
  generalize fs.find p = outcome at hq ⊢
  rcases outcome with - | ⟨place, contents | -⟩
  · rfl
  · exact absurd hq Bool.false_ne_true
  · rfl

theorem start_append {cs more : List Component} (h : cs ≠ []) :
    fs.start (cs ++ more) = fs.start cs := by
  rw [start, start, List.head?_append_of_ne_nil _ h]

/-- The directory to which a path leads that is spelled below another one. -/
theorem directoryAt?_below (hfs : fs.WellFormed) {root p : Path} {base : Place}
    {names : List String} (hroot : root.components ≠ []) (hbase : fs.directoryAt? root = some base)
    (hp : p.components = root.components ++ names.map .normal) :
    fs.directoryAt? p =
      if fs.entryAt? (base ++ names) = some .directory then some (base ++ names) else none := by
  have hcomponents : p.components ≠ [] := hp ▸ List.append_ne_nil_of_left_ne_nil hroot _
  rw [directoryAt?_eq (Path.text_ne_empty hroot)] at hbase
  rw [directoryAt?_eq (Path.text_ne_empty hcomponents), hp, start_append hroot, follow_append,
    hbase,
    Option.bind_some, follow_names hfs]

/-- A path is spelled below another one only if that leads to a directory, when it does. -/
theorem exists_directoryAt? {root p : Path} {names : List String} {place : Place}
    (hroot : root.components ≠ []) (hp : p.components = root.components ++ names.map .normal)
    (hplace : fs.directoryAt? p = some place) : ∃ base, fs.directoryAt? root = some base := by
  have hcomponents : p.components ≠ [] := hp ▸ List.append_ne_nil_of_left_ne_nil hroot _
  rw [directoryAt?_eq (Path.text_ne_empty hcomponents), hp, start_append hroot, follow_append,
    Option.bind_eq_some_iff] at hplace
  obtain ⟨base, hbase, -⟩ := hplace
  exact ⟨base, (directoryAt?_eq (Path.text_ne_empty hroot)).trans hbase⟩

theorem landing_eq_some_iff {outcome : Except Fault Place} {place : Place} :
    fs.landing outcome = some place ↔
      outcome = .ok place ∧ fs.entryAt? place = some .directory := by
  rcases outcome with fault | place'
  · simp [landing]
  · simp only [landing, Option.ite_none_right_eq_some, Option.some.injEq, Except.ok.injEq]
    constructor
    · rintro ⟨hdirectory, rfl⟩
      exact ⟨rfl, hdirectory⟩
    · rintro ⟨rfl, hdirectory⟩
      exact ⟨hdirectory, rfl⟩

theorem ok_bind {ε α β : Type} (a : α) (f : α → Except ε β) : (Except.ok a >>= f) = f a := rfl

/-- A last piece that does not count leads nowhere else. -/
theorem foldlM_concat_nil {pieces : List (List Char)} {place last : Place}
    (h : (pieces ++ [[]]).foldlM (fun place name ↦ fs.step place name) place = .ok last) :
    pieces.foldlM (fun place name ↦ fs.step place name) place = .ok last := by
  rw [List.foldlM_append] at h
  rcases hbefore : pieces.foldlM (fun place name ↦ fs.step place name) place with fault | before
  · rw [hbefore] at h
    cases h
  · rw [hbefore] at h
    by_cases hdirectory : fs.entryAt? before = some .directory
    · rwa [ok_bind, List.foldlM_cons, step_of_directory hdirectory, ok_bind] at h
    · obtain ⟨fault, hfault⟩ := step_of_not_directory hdirectory []
      rw [ok_bind, List.foldlM_cons, hfault] at h
      cases h

/-- One more name leads to what is there in the directory. -/
theorem find_join_name {q : Path} {s : String} {place : Place} {entry : Entry} (hs : IsName s)
    (hq : q.components ≠ []) (hplace : fs.directoryAt? q = some place)
    (hentry : fs.entryAt? (place ++ [s]) = some entry) :
    fs.find (q.join ⟨s⟩) = .ok (place ++ [s], entry) := by
  have hcomponents := Path.components_join_name q hs
  have hjoin : (q.join ⟨s⟩).components ≠ [] := by simp [hcomponents]
  obtain ⟨head, body, hsegments, hsegments'⟩ :=
    Path.segments_join (Path.text_ne_empty hq) (Path.isAbsolute_name hs)
  rw [directoryAt?_eq_landing, landing_eq_some_iff, locate_eq (Path.text_ne_empty hq)] at hplace
  obtain ⟨hplace, hdirectory⟩ := hplace
  -- an empty piece at the end of the directory asks for no more than the name does
  have hstem : (head :: body).foldlM (fun place name ↦ fs.step place name)
      (fs.start q.components) = .ok place := by
    rcases hsegments with h | h
    · rwa [h] at hplace
    · rw [h, ← List.cons_append] at hplace
      exact foldlM_concat_nil hplace
  have hlocate : fs.locate (q.join ⟨s⟩) = .ok (place ++ [s]) := by
    rw [locate_eq (Path.text_ne_empty hjoin), hcomponents, start_append hq, hsegments',
      Path.segments_name hs, ← List.cons_append, List.foldlM_append, hstem, ok_bind,
      List.foldlM_cons, step_of_directory hdirectory, Path.bodyComponent?_of_isName hs]
    rfl
  rw [find, hlocate, ok_bind, hentry]
  rfl

/-! ### Walks -/

/-- A place lies below another one by the names that lead from the one to the other. -/
theorem namesBelow?_eq_some_iff {base place : Place} {names : List String} :
    namesBelow? base place = some names ↔ place = base ++ names := by
  fun_induction namesBelow? base place with
  | case1 rest => simp [eq_comm]
  | case2 name base => simp
  | case3 base name rest ih => simpa using ih
  | case4 name base name' rest hne =>
    simp only [List.cons_append, List.cons.injEq, reduceCtorEq, false_iff, not_and]
    exact fun heq ↦ absurd heq.symm hne

/-- What lies below a place further down is found in two steps. -/
theorem namesBelow?_append (base names place : Place) :
    namesBelow? (base ++ names) place = (namesBelow? base place).bind (namesBelow? names) := by
  refine Option.ext fun rest ↦ ?_
  simp only [Option.bind_eq_some_iff, namesBelow?_eq_some_iff, List.append_assoc]
  constructor
  · exact fun h ↦ ⟨names ++ rest, h, rfl⟩
  · rintro ⟨_, h, rfl⟩
    exact h

/-- All that lies below a place, by the names on the way. -/
def below (fs : Files) (base : Place) : List (List String × Entry) :=
  fs.entries.entries.filterMap fun (place, entry) ↦
    (namesBelow? base place).map fun names ↦ (names, entry)

/-- What lies below a place are the entries whose places continue it. -/
theorem mem_below {base : Place} {names : List String} {entry : Entry} :
    (names, entry) ∈ fs.below base ↔ (base ++ names, entry) ∈ fs.entries.entries := by
  simp only [below, List.mem_filterMap, Option.map_eq_some_iff, namesBelow?_eq_some_iff]
  constructor
  · rintro ⟨⟨place, entry'⟩, hmem, names', hplace, heq⟩
    obtain ⟨rfl, rfl⟩ := Prod.mk.inj heq
    rwa [← hplace]
  · exact fun hmem ↦ ⟨_, hmem, names, rfl, rfl⟩

/-- Whether a walk gets to something: nothing on the way to it is skipped. -/
def Enters (fs : Files) (skip : List String → Entry → Bool) (base : Place) (names : List String) :
    Prop :=
  ∀ above entry, above ≠ [] → above <+: names → (base ++ above, entry) ∈ fs.entries.entries →
    skip above entry = false

theorem enters_iff {skip : List String → Entry → Bool} {base : Place} {names : List String} :
    fs.Enters skip base names ↔
      (((fs.below base).filter fun (names, entry) ↦ !names.isEmpty && skip names entry).any
        fun (above, _) ↦ above.isPrefixOf names) = false := by
  simp only [Enters, List.any_eq_false, List.mem_filter, Bool.and_eq_true, Bool.not_eq_true',
    List.isEmpty_eq_false_iff, List.isPrefixOf_iff_prefix, Prod.forall, mem_below]
  constructor
  · rintro h above entry ⟨hmem, hne, hskip⟩ habove
    rw [h above entry hne habove hmem] at hskip
    cases hskip
  · intro h above entry hne habove hmem
    by_contra hskip
    exact h above entry ⟨hmem, hne, by simpa using hskip⟩ habove

open Classical in
/-- **A walk meets what lies below its start and is not skipped on the way.** -/
theorem walk_eq (skip : List String → Entry → Bool) (base : Place) :
    fs.walk skip base =
      (fs.below base).filter fun m ↦ decide (m.1 ≠ [] ∧ fs.Enters skip base m.1) := by
  refine List.filter_congr fun m _ ↦ ?_
  rw [Bool.eq_iff_iff, decide_eq_true_iff, enters_iff, Bool.and_eq_true, Bool.not_eq_true',
    Bool.not_eq_true', List.isEmpty_eq_false_iff]
  rfl

/-- **A walk meets what lies below its start** and is not behind anything that is skipped. -/
theorem mem_walk {skip : List String → Entry → Bool} {base : Place} {names : List String}
    {entry : Entry} : (names, entry) ∈ fs.walk skip base ↔
      (base ++ names, entry) ∈ fs.entries.entries ∧ names ≠ [] ∧ fs.Enters skip base names := by
  simp only [walk_eq, List.mem_filter, mem_below, decide_eq_true_eq]

/-- A walk meets each thing once. -/
theorem walk_pairwise (skip : List String → Entry → Bool) (base : Place) :
    (fs.walk skip base).Pairwise fun m m' ↦ m.1 ≠ m'.1 := by
  have hbelow : (fs.below base).Pairwise fun m m' ↦ m.1 ≠ m'.1 := by
    refine fs.entries.increasing.filterMap _ fun e e' hlt m hm m' hm' heq ↦ ?_
    obtain ⟨names, hnames, rfl⟩ := Option.map_eq_some_iff.1 hm
    obtain ⟨names', hnames', rfl⟩ := Option.map_eq_some_iff.1 hm'
    rw [namesBelow?_eq_some_iff.1 hnames, namesBelow?_eq_some_iff.1 hnames'] at hlt
    exact ne_of_compare_eq_lt hlt (congrArg _ heq)
  rw [walk_eq]
  exact hbelow.filter _

open Classical in
/-- What is made of the things that a walk meets, in the order of the entries. -/
theorem filterMap_walk {α : Type} (skip : List String → Entry → Bool) (base : Place)
    (f : List String × Entry → Option α) :
    (fs.walk skip base).filterMap f = fs.entries.entries.filterMap fun e ↦
      (namesBelow? base e.1).bind fun names ↦
        if names ≠ [] ∧ fs.Enters skip base names then f (names, e.2) else none := by
  rw [walk_eq, List.filterMap_filter, below, List.filterMap_filterMap]
  refine List.filterMap_congr fun ⟨place, entry⟩ _ ↦ ?_
  dsimp only
  rcases namesBelow? base place with - | names
  · rfl
  · simp only [Option.map_some, Option.bind_some, decide_eq_true_eq]

end JavaDeps.Files
