import JavaDeps.Maven.ClassIndex
import JavaDeps.Proofs.Maven.CoordinateText
import Mathlib.Data.List.Nodup

/-!
# Which lock files are admitted

A lock file is checked artifact by artifact, and each artifact in four respects: its coordinate can
be read, no artifact before it has that coordinate, it has a label, and its classes have names that
classes can have. **The first fault in this order is the one that is reported** (`Offends`,
`FirstOffence`), and there is an index exactly if there is none (`checkArtifacts_cases`).

A lock file without a fault is what `IsSound` says, with no order in it: whether a lock file is
admitted does not depend on how its artifacts are arranged.
-/

namespace JavaDeps.Maven

/-! ### What an artifact stands for -/

variable (repository : Option String)

/-- Whether an artifact with a coordinate carries a label: its own, which must have label shape, or
where it has none the one that the repository gives to the coordinate. -/
inductive Carries (locked : LockedArtifact) (c : Coordinate) : Label → Prop
  | own {text : String} (h : locked.label = some text)
    (hshape : Label.isLabelShape text.toList = true) : Carries locked c ⟨text⟩
  | derived {name : String} (h : locked.label = none) (hname : repository = some name) :
    Carries locked c (.ofCoordinate name c)

/-- Whether a locked artifact is the entry of an artifact: its coordinate is read as that of the
artifact, and it carries the label of it. -/
structure StandsFor (locked : LockedArtifact) (a : Artifact) : Prop where
  coordinate : Coordinate.parse locked.coordinate = .ok a.coordinate
  label : Carries repository locked a.coordinate a.label

/-- Whether some of the artifacts has a coordinate, going by what the coordinates are read as. -/
def Listed (artifacts : List LockedArtifact) (c : Coordinate) : Prop :=
  ∃ locked ∈ artifacts, Coordinate.parse locked.coordinate = .ok c

/-- What is wrong with the label of an artifact: it is not in the shape of a label, or there is
none, and no repository to make one from. -/
inductive LabelFault (locked : LockedArtifact) : LockError → Prop
  | misshapen {text : String} (h : locked.label = some text)
    (hshape : Label.isLabelShape text.toList = false) :
    LabelFault locked (.invalidLabel locked.coordinate text)
  | absent (h : locked.label = none) (hrepository : repository = none) :
    LabelFault locked (.missingLabel locked.coordinate)

/-- What is wrong with an artifact that comes after others: its coordinate, or else that one of them
has it too, or else its label, or else the first of its classes that cannot be one. -/
inductive Offends (before : List LockedArtifact) (locked : LockedArtifact) : LockError → Prop
  | coordinate {fault : CoordinateFault} (h : Coordinate.parse locked.coordinate = .error fault) :
    Offends before locked (.invalidCoordinate locked.coordinate fault)
  | duplicate {c : Coordinate} (hparse : Coordinate.parse locked.coordinate = .ok c)
    (h : Listed before c) : Offends before locked (.duplicateCoordinate locked.coordinate)
  | label {c : Coordinate} {e : LockError} (hparse : Coordinate.parse locked.coordinate = .ok c)
    (hnew : ¬ Listed before c) (h : LabelFault repository locked e) : Offends before locked e
  | className {a : Artifact} {good rest : List String} {name : String}
    (hstands : StandsFor repository locked a) (hnew : ¬ Listed before a.coordinate)
    (hclasses : locked.classes = good ++ name :: rest)
    (hgood : ∀ n ∈ good, isClassName n = true) (h : isClassName name = false) :
    Offends before locked (.invalidClassName locked.coordinate name)

/-- Whether nothing is wrong with an artifact that comes after others: it stands for one, with a
coordinate that is new, and lists nothing but class names. -/
structure Admitted (before : List LockedArtifact) (locked : LockedArtifact) (a : Artifact) :
    Prop where
  standsFor : StandsFor repository locked a
  isNew : ¬ Listed before a.coordinate
  classes : ∀ name ∈ locked.classes, isClassName name = true

variable {repository}

theorem Carries.unique {locked : LockedArtifact} {c : Coordinate} {l l' : Label}
    (h : Carries repository locked c l) (h' : Carries repository locked c l') : l = l' := by
  cases h <;> cases h' <;> simp_all

/-- Of an artifact only its own label matters for the label that it carries. -/
theorem Carries.congr {locked twin : LockedArtifact} {c : Coordinate} {l : Label}
    (h : Carries repository locked c l) (hlabel : twin.label = locked.label) :
    Carries repository twin c l := by
  cases h with
  | own hown hshape => exact .own (hlabel.trans hown) hshape
  | derived hnone hname => exact .derived (hlabel.trans hnone) hname

/-- An entry of the lock file stands for at most one artifact. -/
theorem StandsFor.unique {locked : LockedArtifact} {a b : Artifact}
    (ha : StandsFor repository locked a) (hb : StandsFor repository locked b) : a = b := by
  obtain ⟨c, l⟩ := a
  obtain ⟨c', l'⟩ := b
  have hcoordinate : c = c' := Except.ok.inj (ha.coordinate.symm.trans hb.coordinate)
  subst hcoordinate
  have hlabel : l = l' := ha.label.unique hb.label
  rw [hlabel]

theorem LabelFault.not_carries {locked : LockedArtifact} {e : LockError} {c : Coordinate}
    {l : Label} (h : LabelFault repository locked e) : ¬ Carries repository locked c l := by
  intro hcarries
  cases h <;> cases hcarries <;> simp_all

theorem LabelFault.unique {locked : LockedArtifact} {e e' : LockError}
    (h : LabelFault repository locked e) (h' : LabelFault repository locked e') : e = e' := by
  cases h <;> cases h' <;> simp_all

/-- What is admitted does not offend. -/
theorem Admitted.not_offends {before : List LockedArtifact} {locked : LockedArtifact}
    {a : Artifact} {e : LockError} (ha : Admitted repository before locked a) :
    ¬ Offends repository before locked e := by
  have hparse := ha.standsFor.coordinate
  intro h
  cases h with
  | coordinate h => rw [h] at hparse; cases hparse
  | duplicate hparse' h =>
    rw [hparse'] at hparse
    exact ha.isNew (Except.ok.inj hparse ▸ h)
  | label _ _ h => exact h.not_carries ha.standsFor.label
  | className _ _ hclasses _ h =>
    rw [ha.classes _ (hclasses ▸ List.mem_append_right _ List.mem_cons_self)] at h
    cases h

/-- An artifact has one fault at most. -/
theorem Offends.unique {before : List LockedArtifact} {locked : LockedArtifact} {e e' : LockError}
    (h : Offends repository before locked e) (h' : Offends repository before locked e') :
    e = e' := by
  cases h with
  | coordinate h =>
    cases h' with
    | coordinate h' => rw [h] at h'; rw [Except.error.inj h']
    | duplicate hparse _ => rw [h] at hparse; cases hparse
    | label hparse _ _ => rw [h] at hparse; cases hparse
    | className hstands _ _ _ _ => rw [hstands.coordinate] at h; cases h
  | duplicate hparse h =>
    cases h' with
    | coordinate h' => rw [hparse] at h'; cases h'
    | duplicate _ _ => rfl
    | label hparse' hnew _ => exact absurd (Except.ok.inj (hparse.symm.trans hparse') ▸ h) hnew
    | className hstands hnew _ _ _ =>
      exact absurd (Except.ok.inj (hparse.symm.trans hstands.coordinate) ▸ h) hnew
  | label hparse hnew h =>
    cases h' with
    | coordinate h' => rw [hparse] at h'; cases h'
    | duplicate hparse' h' => exact absurd (Except.ok.inj (hparse'.symm.trans hparse) ▸ h') hnew
    | label _ _ h' => exact h.unique h'
    | className hstands _ _ _ _ => exact absurd hstands.label h.not_carries
  | className hstands hnew hclasses hgood h =>
    cases h' with
    | coordinate h' => rw [hstands.coordinate] at h'; cases h'
    | duplicate hparse' h' =>
      exact absurd (Except.ok.inj (hparse'.symm.trans hstands.coordinate) ▸ h') hnew
    | label _ _ h' => exact absurd hstands.label h'.not_carries
    | className _ _ hclasses' hgood' h' =>
      -- the first name that is none is found by searching
      have hfind := List.find?_eq_some_iff_append (p := fun name ↦ !isClassName name).2
        ⟨by simp [h], _, _, hclasses, by simpa using hgood⟩
      have hfind' := List.find?_eq_some_iff_append (p := fun name ↦ !isClassName name).2
        ⟨by simp [h'], _, _, hclasses', by simpa using hgood'⟩
      rw [Option.some.inj (hfind.symm.trans hfind')]

/-! ### Checking one artifact -/

namespace ClassIndex

/-- **An entry has a fault in its label or carries one.** -/
theorem labelOf_cases (repository : Option String) (locked : LockedArtifact) (c : Coordinate) :
    (∃ e, labelOf repository locked c = .error e ∧ LabelFault repository locked e) ∨
      ∃ l, labelOf repository locked c = .ok l ∧ Carries repository locked c l := by
  rcases hlabel : locked.label with - | text
  · rcases hname : repository with - | name
    · exact .inl ⟨_, by simp only [labelOf, hlabel], .absent hlabel rfl⟩
    · exact .inr ⟨_, by simp only [labelOf, hlabel], .derived hlabel rfl⟩
  · by_cases hshape : Label.isLabelShape text.toList = true
    · have hparse : Label.parse? text = some ⟨text⟩ := if_pos hshape
      exact .inr ⟨_, by simp only [labelOf, hlabel, hparse], .own hlabel hshape⟩
    · have hparse : Label.parse? text = none := if_neg hshape
      have hshape : Label.isLabelShape text.toList = false := by simpa using hshape
      exact .inl ⟨_, by simp only [labelOf, hlabel, hparse], .misshapen hlabel hshape⟩

/-- **An artifact is admitted, or else its fault is reported.** -/
theorem checkArtifact_cases {before : List LockedArtifact} {seen : List Coordinate}
    (hseen : ∀ c, c ∈ seen ↔ Listed before c) (repository : Option String)
    (locked : LockedArtifact) :
    (∃ e, checkArtifact repository seen locked = .error e ∧ Offends repository before locked e) ∨
      ∃ a, checkArtifact repository seen locked = .ok ⟨a, locked.classes⟩ ∧
        Admitted repository before locked a := by
  rw [checkArtifact]
  rcases hparse : Coordinate.parse locked.coordinate with fault | c
  · exact .inl ⟨_, rfl, .coordinate hparse⟩
  · by_cases hlisted : c ∈ seen
    · refine .inl ⟨_, ?_, .duplicate hparse ((hseen c).1 hlisted)⟩
      exact if_pos (List.contains_iff_mem.2 hlisted)
    · have hnew : ¬ Listed before c := mt (hseen c).2 hlisted
      dsimp only
      rw [if_neg (mt List.contains_iff_mem.1 hlisted)]
      rcases labelOf_cases repository locked c with ⟨e, hlabel, hfault⟩ | ⟨l, hlabel, hcarries⟩
      · rw [hlabel]
        exact .inl ⟨e, rfl, .label hparse hnew hfault⟩
      · have hstands : StandsFor repository locked ⟨c, l⟩ := ⟨hparse, hcarries⟩
        rw [hlabel]
        dsimp only
        rcases hfind : locked.classes.find? fun name ↦ !isClassName name with - | name
        · refine .inr ⟨_, rfl, hstands, hnew, fun name hname ↦ ?_⟩
          simpa using List.find?_eq_none.1 hfind name hname
        · obtain ⟨hname, good, rest, hclasses, hgood⟩ := List.find?_eq_some_iff_append.1 hfind
          exact .inl ⟨_, rfl, .className hstands hnew hclasses (by simpa using hgood)
            (by simpa using hname)⟩

end ClassIndex

/-! ### Checking all of them -/

variable (repository) in
/-- The fault of the first artifact that has one, of those that come after others. -/
inductive FirstOffence : List LockedArtifact → List LockedArtifact → LockError → Prop
  | here {before rest : List LockedArtifact} {locked : LockedArtifact} {e : LockError}
    (h : Offends repository before locked e) : FirstOffence before (locked :: rest) e
  | later {before rest : List LockedArtifact} {locked : LockedArtifact} {e : LockError}
    (hnone : ∀ e', ¬ Offends repository before locked e')
    (h : FirstOffence (before ++ [locked]) rest e) : FirstOffence before (locked :: rest) e

variable (repository) in
/-- Whether artifacts that come after others are all admitted, with what they provide. -/
inductive AllAdmitted : List LockedArtifact → List LockedArtifact → List Provider → Prop
  | nil {before : List LockedArtifact} : AllAdmitted before [] []
  | cons {before rest : List LockedArtifact} {locked : LockedArtifact} {a : Artifact}
    {providers : List Provider} (h : Admitted repository before locked a)
    (hrest : AllAdmitted (before ++ [locked]) rest providers) :
    AllAdmitted before (locked :: rest) (⟨a, locked.classes⟩ :: providers)

/-- At most one offence is the first. -/
theorem FirstOffence.unique {before artifacts : List LockedArtifact} {e e' : LockError}
    (h : FirstOffence repository before artifacts e)
    (h' : FirstOffence repository before artifacts e') : e = e' := by
  induction h with
  | here h =>
    cases h' with
    | here h' => exact h.unique h'
    | later hnone _ => exact absurd h (hnone _)
  | later hnone _ ih =>
    cases h' with
    | here h' => exact absurd h' (hnone _)
    | later _ h' => exact ih h'

/-- Where all entries are admitted there is no offence. -/
theorem AllAdmitted.not_firstOffence {before artifacts : List LockedArtifact}
    {providers : List Provider} {e : LockError}
    (h : AllAdmitted repository before artifacts providers) :
    ¬ FirstOffence repository before artifacts e := by
  induction h with
  | nil => exact fun h ↦ nomatch h
  | cons h _ ih =>
    intro h'
    cases h' with
    | here h' => exact h.not_offends h'
    | later _ h' => exact ih h'

/-- With one more entry, a coordinate is listed if it was before, or if it is that of the entry. -/
theorem listed_concat {before : List LockedArtifact} {locked : LockedArtifact} {c d : Coordinate}
    (hparse : Coordinate.parse locked.coordinate = .ok c) :
    Listed (before ++ [locked]) d ↔ d = c ∨ Listed before d := by
  simp only [Listed, List.mem_append, List.mem_singleton, or_and_right, exists_or,
    exists_eq_left, hparse, Except.ok.injEq]
  rw [or_comm, eq_comm]

/-- **Artifacts are all admitted, or else the first fault among them is reported.** -/
theorem ClassIndex.checkArtifacts_cases (repository : Option String)
    (before artifacts : List LockedArtifact) {seen : List Coordinate}
    (hseen : ∀ c, c ∈ seen ↔ Listed before c) :
    (∃ e, checkArtifacts repository seen artifacts = .error e ∧
      FirstOffence repository before artifacts e) ∨
      ∃ providers, checkArtifacts repository seen artifacts = .ok providers ∧
        AllAdmitted repository before artifacts providers := by
  induction artifacts generalizing before seen with
  | nil => exact .inr ⟨[], rfl, .nil⟩
  | cons locked rest ih =>
    rw [checkArtifacts]
    rcases checkArtifact_cases hseen repository locked with ⟨e, hcheck, hoffends⟩ |
      ⟨a, hcheck, hadmitted⟩
    · rw [hcheck]
      exact .inl ⟨e, rfl, .here hoffends⟩
    · have hparse := hadmitted.standsFor.coordinate
      have hseen' : ∀ c, c ∈ a.coordinate :: seen ↔ Listed (before ++ [locked]) c := by
        intro c
        rw [List.mem_cons, hseen, listed_concat hparse]
      rw [hcheck]
      dsimp only
      rcases ih (before ++ [locked]) hseen' with ⟨e, hrest, hoffence⟩ | ⟨providers, hrest, hall⟩
      · rw [hrest]
        exact .inl ⟨e, rfl, .later (fun _ ↦ hadmitted.not_offends) hoffence⟩
      · rw [hrest]
        exact .inr ⟨_, rfl, .cons hadmitted hall⟩

/-! ### Lock files without a fault -/

/-- Whether an artifact has a label of label shape, or else, having none, is in a lock file that
names a repository. -/
def HasLabel (repository : Option String) (locked : LockedArtifact) : Prop :=
  (∃ text, locked.label = some text ∧ Label.isLabelShape text.toList = true) ∨
    locked.label = none ∧ repository.isSome

/-- Whether artifacts of a lock file have no fault, in whatever order they are listed. -/
structure IsSound (repository : Option String) (artifacts : List LockedArtifact) : Prop where
  coordinates : ∀ locked ∈ artifacts, ∃ c, Coordinate.parse locked.coordinate = .ok c
  distinct : (artifacts.map (·.coordinate)).Nodup
  labels : ∀ locked ∈ artifacts, HasLabel repository locked
  classes : ∀ locked ∈ artifacts, ∀ name ∈ locked.classes, isClassName name = true

/-- An entry carries a label just if its own one has the shape of a label, or it has none and there
is a repository to make one from. -/
theorem exists_carries_iff {locked : LockedArtifact} {c : Coordinate} :
    (∃ l, Carries repository locked c l) ↔ HasLabel repository locked := by
  constructor
  · rintro ⟨l, h⟩
    cases h with
    | own h hshape => exact .inl ⟨_, h, hshape⟩
    | derived h hname => exact .inr ⟨h, by rw [hname]; rfl⟩
  · rintro (⟨text, h, hshape⟩ | ⟨h, hsome⟩)
    · exact ⟨_, .own h hshape⟩
    · obtain ⟨name, hname⟩ := Option.isSome_iff_exists.1 hsome
      exact ⟨_, .derived h hname⟩

/-- A coordinate that can be read is new if its text is. -/
theorem not_listed_iff {before : List LockedArtifact} {locked : LockedArtifact} {c : Coordinate}
    (hparse : Coordinate.parse locked.coordinate = .ok c) :
    ¬ Listed before c ↔ ∀ other ∈ before, other.coordinate ≠ locked.coordinate := by
  constructor
  · intro hnew other hother hsame
    exact hnew ⟨other, hother, hsame ▸ hparse⟩
  · rintro hnew ⟨other, hother, hparse'⟩
    have htext := Coordinate.text_of_parse hparse
    exact hnew other hother ((Coordinate.text_of_parse hparse').symm.trans htext)

/-- **Artifacts are all admitted exactly if they have no fault** and none of their coordinates came
before. -/
theorem exists_allAdmitted_iff {before artifacts : List LockedArtifact} :
    (∃ providers, AllAdmitted repository before artifacts providers) ↔
      IsSound repository artifacts ∧ ∀ locked ∈ artifacts, ∀ other ∈ before,
        other.coordinate ≠ locked.coordinate := by
  induction artifacts generalizing before with
  | nil =>
    constructor
    · rintro -
      exact ⟨⟨by simp, by simp, by simp, by simp⟩, by simp⟩
    · exact fun _ ↦ ⟨[], .nil⟩
  | cons locked rest ih =>
    constructor
    · rintro ⟨providers, h⟩
      cases h with
      | cons h hrest =>
        obtain ⟨hsound, hnew⟩ := ih.1 ⟨_, hrest⟩
        have hlocked := (not_listed_iff h.standsFor.coordinate).1 h.isNew
        have hlabel : HasLabel repository locked := exists_carries_iff.1 ⟨_, h.standsFor.label⟩
        refine ⟨⟨?_, ?_, ?_, ?_⟩, ?_⟩
        · exact List.forall_mem_cons.2 ⟨⟨_, h.standsFor.coordinate⟩, hsound.coordinates⟩
        · rw [List.map_cons, List.nodup_cons, List.mem_map]
          refine ⟨?_, hsound.distinct⟩
          rintro ⟨other, hother, hsame⟩
          exact hnew other hother locked (by simp) hsame.symm
        · exact List.forall_mem_cons.2 ⟨hlabel, hsound.labels⟩
        · exact List.forall_mem_cons.2 ⟨h.classes, hsound.classes⟩
        · refine List.forall_mem_cons.2 ⟨hlocked, fun other hother first hfirst ↦ ?_⟩
          exact hnew other hother first (List.mem_append_left _ hfirst)
    · rintro ⟨hsound, hnew⟩
      obtain ⟨c, hparse⟩ := hsound.coordinates locked List.mem_cons_self
      obtain ⟨l, hcarries⟩ :=
        exists_carries_iff (c := c).2 (hsound.labels locked List.mem_cons_self)
      obtain ⟨hfirst, hdistinct⟩ := List.nodup_cons.1 hsound.distinct
      have hadmitted : Admitted repository before locked ⟨c, l⟩ :=
        ⟨⟨hparse, hcarries⟩, (not_listed_iff hparse).2 (hnew locked List.mem_cons_self),
          hsound.classes locked List.mem_cons_self⟩
      have hrest : ∃ providers, AllAdmitted repository (before ++ [locked]) rest providers := by
        refine ih.2 ⟨⟨?_, hdistinct, ?_, ?_⟩, fun other hother first hmem ↦ ?_⟩
        · exact fun other hother ↦ hsound.coordinates other (List.mem_cons_of_mem _ hother)
        · exact fun other hother ↦ hsound.labels other (List.mem_cons_of_mem _ hother)
        · exact fun other hother ↦ hsound.classes other (List.mem_cons_of_mem _ hother)
        · rcases List.mem_append.1 hmem with hmem | hmem
          · exact hnew other (List.mem_cons_of_mem _ hother) first hmem
          · rw [List.mem_singleton.1 hmem]
            exact fun hsame ↦ hfirst (List.mem_map.2 ⟨other, hother, hsame.symm⟩)
      obtain ⟨providers, hall⟩ := hrest
      exact ⟨_, .cons hadmitted hall⟩

/-- What admitted artifacts provide is what they stand for, with the classes that they list. -/
theorem AllAdmitted.mem_iff {before artifacts : List LockedArtifact} {providers : List Provider}
    (h : AllAdmitted repository before artifacts providers) {p : Provider} :
    p ∈ providers ↔ ∃ locked ∈ artifacts, StandsFor repository locked p.artifact ∧
      p.classes = locked.classes := by
  induction h with
  | nil => simp
  | @cons _ _ locked a _ h _ ih =>
    rw [List.mem_cons, ih, List.exists_mem_cons_iff]
    refine or_congr_left ⟨?_, fun ⟨hstands, hclasses⟩ ↦ ?_⟩
    · rintro rfl
      exact ⟨h.standsFor, rfl⟩
    · obtain ⟨b, classes⟩ := p
      obtain rfl : classes = locked.classes := hclasses
      have hsame : b = a := hstands.unique h.standsFor
      rw [hsame]

end JavaDeps.Maven
