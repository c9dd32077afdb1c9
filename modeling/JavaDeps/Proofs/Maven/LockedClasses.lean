import JavaDeps.Proofs.Maven.Admission
import JavaDeps.Proofs.Maven.Representatives
import Mathlib.Data.List.Perm.Basic

/-!
# What the index of a lock file answers

An index is made of a lock file without a fault, and **answers for every class as the lock file
says**: the artifacts that list the class are grouped by label, each label is represented by its
artifact with the smallest coordinate, and the class is found, ambiguous or missing as there are
one, several or no labels (`Means`).

Nothing in this depends on how the lock file is written down. Two lock files that list the same
artifacts in another order, with their classes in another order or several times, are both refused
or have indices that answer alike.
-/

namespace JavaDeps.Maven

/-- The artifacts that an answer names. -/
def ClassMatch.artifacts : ClassMatch → List Artifact
  | .found a => [a]
  | .ambiguous several => several
  | .missing => []

/-- Whether an artifact of a lock file lists a class. Artifacts are meant with their labels, which
may be derived ones. -/
def Provides (lock : LockFile) (symbol : String) (a : Artifact) : Prop :=
  ∃ locked ∈ lock.artifacts, symbol ∈ locked.classes ∧ StandsFor lock.repository locked a

/-- **What a lock file says of a class.** -/
structure Means (lock : LockFile) (symbol : String) (m : ClassMatch) : Prop where
  missing_iff : m = .missing ↔ ∀ locked ∈ lock.artifacts, symbol ∉ locked.classes
  found_iff : (∃ a, m = .found a) ↔ ∃! label, ∃ a, Provides lock symbol a ∧ a.label = label
  ambiguous_iff : (∃ several, m = .ambiguous several) ↔
    ∃ a b, Provides lock symbol a ∧ Provides lock symbol b ∧ a.label ≠ b.label
  increasing : m.artifacts.Pairwise fun a b ↦ compare a.label b.label = .lt
  mem_artifacts : ∀ a, a ∈ m.artifacts ↔ Represents (Provides lock symbol) a
  exists_mem : ∀ a, Provides lock symbol a → ∃ b ∈ m.artifacts, b.label = a.label

/-! ### From candidates to an answer -/

namespace ClassIndex

variable {index : ClassIndex} {symbol : String}

theorem artifacts_resolve : (index.resolve symbol).artifacts = index.candidates symbol := by
  rw [resolve]
  rcases index.candidates symbol with - | ⟨a, - | ⟨b, rest⟩⟩ <;> rfl

theorem resolve_eq_missing_iff :
    index.resolve symbol = .missing ↔ index.candidates symbol = [] := by
  rw [resolve]
  rcases index.candidates symbol with - | ⟨a, - | ⟨b, rest⟩⟩ <;> simp

theorem exists_resolve_eq_found_iff :
    (∃ a, index.resolve symbol = .found a) ↔ ∃ a, index.candidates symbol = [a] := by
  rw [resolve]
  rcases index.candidates symbol with - | ⟨a, - | ⟨b, rest⟩⟩ <;> simp

theorem exists_resolve_eq_ambiguous_iff :
    (∃ several, index.resolve symbol = .ambiguous several) ↔
      ∃ a b rest, index.candidates symbol = a :: b :: rest := by
  rw [resolve]
  rcases index.candidates symbol with - | ⟨a, - | ⟨b, rest⟩⟩ <;> simp

/-- One candidate, one label. -/
theorem exists_candidates_eq_singleton_iff :
    (∃ a, index.candidates symbol = [a]) ↔
      ∃! label, ∃ a ∈ index.providersOf symbol, a.label = label := by
  constructor
  · rintro ⟨a, hsole⟩
    have ha : a ∈ index.candidates symbol := by rw [hsole]; exact List.mem_cons_self
    refine ⟨a.label, ⟨a, (mem_candidates.1 ha).isKind, rfl⟩, ?_⟩
    rintro label ⟨b, hb, rfl⟩
    obtain ⟨c, hc, hlabel⟩ := exists_mem_candidates hb
    rw [hsole, List.mem_singleton] at hc
    rw [← hlabel, hc]
  · rintro ⟨label, ⟨a, ha, rfl⟩, hunique⟩
    obtain ⟨b, hb, hlabel⟩ := exists_mem_candidates ha
    refine ⟨b, ?_⟩
    -- two candidates of one label cannot follow each other
    have hincreasing : (index.candidates symbol).Pairwise fun c d ↦ c.label ≠ d.label :=
      candidates_increasing.imp ne_of_compare_eq_lt
    have hall : ∀ c ∈ index.candidates symbol, c.label = a.label := fun c hc ↦
      hunique _ ⟨c, (mem_candidates.1 hc).isKind, rfl⟩
    rcases hcandidates : index.candidates symbol with - | ⟨c, - | ⟨d, rest⟩⟩
    · rw [hcandidates] at hb
      exact absurd hb List.not_mem_nil
    · rw [hcandidates, List.mem_singleton] at hb
      rw [hb]
    · rw [hcandidates] at hincreasing hall
      have hne := (List.pairwise_cons.1 hincreasing).1 d List.mem_cons_self
      exact absurd ((hall c (by simp)).trans (hall d (by simp)).symm) hne

/-- Several candidates, several labels. -/
theorem exists_candidates_eq_cons_cons_iff :
    (∃ a b rest, index.candidates symbol = a :: b :: rest) ↔
      ∃ a ∈ index.providersOf symbol, ∃ b ∈ index.providersOf symbol, a.label ≠ b.label := by
  constructor
  · rintro ⟨a, b, rest, hcandidates⟩
    have hincreasing : (index.candidates symbol).Pairwise fun c d ↦ compare c.label d.label = .lt :=
      candidates_increasing
    have hmem : ∀ c ∈ a :: b :: rest, c ∈ index.providersOf symbol := fun c hc ↦
      (mem_candidates.1 (hcandidates ▸ hc)).isKind
    rw [hcandidates] at hincreasing
    have hlt := (List.pairwise_cons.1 hincreasing).1 b List.mem_cons_self
    exact ⟨a, hmem a (by simp), b, hmem b (by simp), ne_of_compare_eq_lt hlt⟩
  · rintro ⟨a, ha, b, hb, hlabel⟩
    obtain ⟨c, hc, hac⟩ := exists_mem_candidates ha
    obtain ⟨d, hd, hbd⟩ := exists_mem_candidates hb
    rcases hcandidates : index.candidates symbol with - | ⟨e, - | ⟨f, rest⟩⟩
    · rw [hcandidates] at hc
      exact absurd hc List.not_mem_nil
    · rw [hcandidates, List.mem_singleton] at hc hd
      exact absurd (by rw [← hac, ← hbd, hc, hd]) hlabel
    · exact ⟨e, f, rest, rfl⟩

/-! ### From a lock file to providers -/

variable {lock : LockFile}

/-- **A lock file is indexed, or else the first fault in it is reported.** -/
theorem ofLockFile_cases (lock : LockFile) :
    (∃ e, ofLockFile lock = .error e ∧ FirstOffence lock.repository [] lock.artifacts e) ∨
      ∃ index, ofLockFile lock = .ok index ∧
        AllAdmitted lock.repository [] lock.artifacts index.providers := by
  rw [ofLockFile]
  have hseen : ∀ c, c ∈ ([] : List Coordinate) ↔ Listed [] c := by simp [Listed]
  rcases checkArtifacts_cases lock.repository [] lock.artifacts hseen with ⟨e, hcheck, hoffence⟩ |
    ⟨providers, hcheck, hall⟩
  · rw [hcheck]
    exact .inl ⟨e, rfl, hoffence⟩
  · rw [hcheck]
    exact .inr ⟨⟨providers⟩, rfl, hall⟩

/-- A lock file that is accepted has all of its entries admitted. -/
theorem allAdmitted_of_ofLockFile (h : ofLockFile lock = .ok index) :
    AllAdmitted lock.repository [] lock.artifacts index.providers := by
  rcases ofLockFile_cases lock with ⟨e, he, -⟩ | ⟨index', hindex, hall⟩
  · rw [he] at h
    cases h
  · rw [hindex] at h
    cases h
    exact hall

/-- **A lock file is rejected for its first offence**, and only for one. -/
theorem ofLockFile_eq_error_iff {e : LockError} :
    ofLockFile lock = .error e ↔ FirstOffence lock.repository [] lock.artifacts e := by
  rcases ofLockFile_cases lock with ⟨e', he, hoffence⟩ | ⟨index, hindex, hall⟩
  · rw [he]
    exact ⟨fun h ↦ Except.error.inj h ▸ hoffence, fun h ↦ by rw [hoffence.unique h]⟩
  · rw [hindex]
    constructor
    · intro h
      cases h
    · intro h
      exact absurd h hall.not_firstOffence

/-- **A lock file is accepted just if it is sound.** -/
theorem exists_ofLockFile_eq_ok_iff :
    (∃ index, ofLockFile lock = .ok index) ↔ IsSound lock.repository lock.artifacts := by
  have hsound : IsSound lock.repository lock.artifacts ↔
      ∃ providers, AllAdmitted lock.repository [] lock.artifacts providers := by
    rw [exists_allAdmitted_iff]
    exact (and_iff_left (by simp)).symm
  rw [hsound]
  constructor
  · rintro ⟨index, hindex⟩
    exact ⟨_, allAdmitted_of_ofLockFile hindex⟩
  · rintro ⟨providers, hall⟩
    rcases ofLockFile_cases lock with ⟨e, -, hoffence⟩ | ⟨index, hindex, -⟩
    · exact absurd hoffence hall.not_firstOffence
    · exact ⟨index, hindex⟩

/-- The artifacts of the index that provide a class are those of the lock file that list it. -/
theorem mem_providersOf_iff (h : ofLockFile lock = .ok index) {a : Artifact} :
    a ∈ index.providersOf symbol ↔ Provides lock symbol a := by
  have hall := allAdmitted_of_ofLockFile h
  simp only [providersOf, List.mem_map, List.mem_filter, List.contains_iff_mem, hall.mem_iff]
  constructor
  · rintro ⟨p, ⟨⟨locked, hlocked, hstands, hclasses⟩, hsymbol⟩, rfl⟩
    exact ⟨locked, hlocked, hclasses ▸ hsymbol, hstands⟩
  · rintro ⟨locked, hlocked, hsymbol, hstands⟩
    exact ⟨⟨a, locked.classes⟩, ⟨⟨locked, hlocked, hstands, rfl⟩, hsymbol⟩, rfl⟩

/-- In a lock file without a fault, some artifact provides a class as soon as it is listed. -/
theorem exists_provides_iff (h : ofLockFile lock = .ok index) :
    (∃ a, Provides lock symbol a) ↔ ∃ locked ∈ lock.artifacts, symbol ∈ locked.classes := by
  constructor
  · rintro ⟨a, locked, hlocked, hsymbol, -⟩
    exact ⟨locked, hlocked, hsymbol⟩
  · rintro ⟨locked, hlocked, hsymbol⟩
    have hsound := exists_ofLockFile_eq_ok_iff.1 ⟨index, h⟩
    obtain ⟨c, hparse⟩ := hsound.coordinates locked hlocked
    obtain ⟨l, hcarries⟩ := exists_carries_iff (c := c).2 (hsound.labels locked hlocked)
    exact ⟨⟨c, l⟩, locked, hlocked, hsymbol, hparse, hcarries⟩

/-- **The index of a lock file answers as the lock file says.** -/
theorem means_resolve (h : ofLockFile lock = .ok index) (symbol : String) :
    Means lock symbol (index.resolve symbol) := by
  have hkind : (· ∈ index.providersOf symbol) = Provides lock symbol :=
    funext fun _ ↦ propext (mem_providersOf_iff h)
  have hmem : ∀ a, a ∈ index.providersOf symbol ↔ Provides lock symbol a :=
    fun _ ↦ mem_providersOf_iff h
  constructor
  · have hlisted : (∀ locked ∈ lock.artifacts, symbol ∉ locked.classes) ↔
        ¬ ∃ a, Provides lock symbol a := by
      rw [exists_provides_iff h]
      grind
    rw [resolve_eq_missing_iff, hlisted]
    constructor
    · rintro hnone ⟨a, ha⟩
      obtain ⟨b, hb, -⟩ := exists_mem_candidates ((hmem a).2 ha)
      exact absurd (hnone ▸ hb) List.not_mem_nil
    · intro hnone
      refine List.eq_nil_iff_forall_not_mem.2 fun a ha ↦ ?_
      exact hnone ⟨a, (hmem a).1 (mem_candidates.1 ha).isKind⟩
  · rw [exists_resolve_eq_found_iff, exists_candidates_eq_singleton_iff]
    simp only [hmem]
  · rw [exists_resolve_eq_ambiguous_iff, exists_candidates_eq_cons_cons_iff]
    simp only [hmem]
    grind
  · rw [artifacts_resolve]
    exact candidates_increasing
  · intro a
    rw [artifacts_resolve, mem_candidates, hkind]
  · intro a ha
    rw [artifacts_resolve]
    exact exists_mem_candidates ((hmem a).2 ha)

end ClassIndex

/-! ### Other ways to write a lock file down -/

/-- An artifact of a lock file, with its classes as a set, so that neither their order nor
repetitions count. -/
def LockedArtifact.content (a : LockedArtifact) : String × Option String × SortedSet String :=
  (a.coordinate, a.label, .ofList a.classes)

/-- Whether two lock files list the same artifacts, whatever the order of the artifacts and the
order and number of their classes. -/
structure SameListing (lock other : LockFile) : Prop where
  repository : lock.repository = other.repository
  artifacts : (lock.artifacts.map (·.content)).Perm (other.artifacts.map (·.content))

namespace SameListing

variable {lock other : LockFile}

theorem symm (h : SameListing lock other) : SameListing other lock :=
  ⟨h.repository.symm, h.artifacts.symm⟩

/-- Each artifact is listed by the other lock file too. -/
theorem exists_mem (h : SameListing lock other) {locked : LockedArtifact}
    (hlocked : locked ∈ lock.artifacts) : ∃ twin ∈ other.artifacts,
      twin.coordinate = locked.coordinate ∧ twin.label = locked.label ∧
        ∀ name, name ∈ twin.classes ↔ name ∈ locked.classes := by
  obtain ⟨twin, htwin, hcontent⟩ :=
    List.mem_map.1 (h.artifacts.subset (List.mem_map_of_mem hlocked))
  simp only [LockedArtifact.content, Prod.mk.injEq] at hcontent
  obtain ⟨hcoordinate, hlabel, hclasses⟩ := hcontent
  refine ⟨twin, htwin, hcoordinate, hlabel, fun name ↦ ?_⟩
  rw [← SortedSet.mem_ofList, hclasses, SortedSet.mem_ofList]

/-- A lock file that lists the same as a sound one is sound. -/
theorem isSound (h : SameListing lock other) (hsound : IsSound lock.repository lock.artifacts) :
    IsSound other.repository other.artifacts := by
  constructor
  · intro locked hlocked
    obtain ⟨twin, htwin, hcoordinate, -, -⟩ := h.symm.exists_mem hlocked
    exact hcoordinate ▸ hsound.coordinates twin htwin
  · have hperm : (lock.artifacts.map (·.coordinate)).Perm (other.artifacts.map (·.coordinate)) := by
      have hfirst := h.artifacts.map Prod.fst
      rwa [List.map_map, List.map_map] at hfirst
    exact hperm.nodup_iff.1 hsound.distinct
  · intro locked hlocked
    obtain ⟨twin, htwin, -, hlabel, -⟩ := h.symm.exists_mem hlocked
    have htwin := hsound.labels twin htwin
    rwa [HasLabel, hlabel, h.repository] at htwin
  · intro locked hlocked name hname
    obtain ⟨twin, htwin, -, -, hclasses⟩ := h.symm.exists_mem hlocked
    exact hsound.classes twin htwin name ((hclasses name).2 hname)

/-- In a lock file that lists the same, an artifact provides the same. -/
theorem provides (h : SameListing lock other) {symbol : String} {a : Artifact}
    (ha : Provides lock symbol a) : Provides other symbol a := by
  obtain ⟨locked, hlocked, hsymbol, hstands⟩ := ha
  obtain ⟨twin, htwin, hcoordinate, hlabel, hclasses⟩ := h.exists_mem hlocked
  refine ⟨twin, htwin, (hclasses symbol).2 hsymbol, hcoordinate ▸ hstands.coordinate, ?_⟩
  rw [← h.repository]
  exact hstands.label.congr hlabel

/-- **The order of a lock file makes no difference** to what its classes resolve to. -/
theorem resolve_eq (h : SameListing lock other) {index index' : ClassIndex}
    (hindex : ClassIndex.ofLockFile lock = .ok index)
    (hindex' : ClassIndex.ofLockFile other = .ok index') (symbol : String) :
    index'.resolve symbol = index.resolve symbol := by
  have hcandidates : index'.candidates symbol = index.candidates symbol := by
    refine ClassIndex.candidates_congr fun a ↦ ?_
    rw [ClassIndex.mem_providersOf_iff hindex, ClassIndex.mem_providersOf_iff hindex']
    exact ⟨h.symm.provides, h.provides⟩
  rw [ClassIndex.resolve, hcandidates, ClassIndex.resolve]

end SameListing

/-- **The index of classes means what the lock file says.** A lock file is indexed exactly if it has
no fault, and else the first fault is reported: the first artifact with one, in the order of the
lock file, and of that artifact the coordinate before a repetition, a repetition before the label
and the label before the classes. The index answers for every class as the lock file says. And a
lock file that lists the same artifacts in another way is indexed too, with the same answers. -/
theorem ofLockFile_means (lock : LockFile) :
    ((∃ index, ClassIndex.ofLockFile lock = .ok index) ↔
      IsSound lock.repository lock.artifacts) ∧
    (∀ e, ClassIndex.ofLockFile lock = .error e ↔
      FirstOffence lock.repository [] lock.artifacts e) ∧
    (∀ index, ClassIndex.ofLockFile lock = .ok index →
      ∀ symbol, Means lock symbol (index.resolve symbol)) ∧
    ∀ index other, ClassIndex.ofLockFile lock = .ok index → SameListing lock other →
      ∃ index', ClassIndex.ofLockFile other = .ok index' ∧
        ∀ symbol, index'.resolve symbol = index.resolve symbol := by
  refine ⟨ClassIndex.exists_ofLockFile_eq_ok_iff, fun e ↦ ClassIndex.ofLockFile_eq_error_iff,
    fun index hindex ↦ ClassIndex.means_resolve hindex, fun index other hindex hsame ↦ ?_⟩
  have hsound := ClassIndex.exists_ofLockFile_eq_ok_iff.1 ⟨index, hindex⟩
  obtain ⟨index', hindex'⟩ := ClassIndex.exists_ofLockFile_eq_ok_iff.2 (hsame.isSound hsound)
  exact ⟨index', hindex', hsame.resolve_eq hindex hindex'⟩

/-- A lock file with a class in two artifacts behind one label and in a third behind another. -/
def shaded : LockFile where
  version := 1
  repository := some "maven"
  artifacts :=
    [⟨"org.b:core:1", some "@maven//:core", ["p.A"]⟩,
      ⟨"org.a:core:1", some "@maven//:core", ["p.A", "p.A"]⟩,
      ⟨"org.c:extra:1", none, ["p.A", "p.B"]⟩]

/-- A class that two labels provide is ambiguous, although one of them does so twice, and a class
that none provides is missing. -/
theorem ofLockFile_means_of_shaded :
    ∃ index, ClassIndex.ofLockFile shaded = .ok index ∧
      (∃ several, index.resolve "p.A" = .ambiguous several) ∧ index.resolve "p.C" = .missing := by
  obtain ⟨-, -, hmeans, -⟩ := ofLockFile_means shaded
  have hok : (ClassIndex.ofLockFile shaded).isOk = true := by decide +kernel
  rcases hindex : ClassIndex.ofLockFile shaded with e | index
  · rw [hindex] at hok
    cases hok
  · have hcore : Provides shaded "p.A" ⟨⟨"org.a", "core", none, none, "1"⟩, ⟨"@maven//:core"⟩⟩ :=
      ⟨_, .tail _ (.head _), by decide, by decide +kernel, .own rfl (by decide +kernel)⟩
    have hextra : Provides shaded "p.A"
        ⟨⟨"org.c", "extra", none, none, "1"⟩, ⟨"@maven//:org_c_extra"⟩⟩ := by
      refine ⟨_, .tail _ (.tail _ (.head _)), by decide, by decide +kernel, ?_⟩
      have hlabel : Label.ofCoordinate "maven" ⟨"org.c", "extra", none, none, "1"⟩ =
          ⟨"@maven//:org_c_extra"⟩ := by decide +kernel
      rw [← hlabel]
      exact .derived rfl rfl
    refine ⟨index, rfl, ?_, ?_⟩
    · exact (hmeans index hindex "p.A").ambiguous_iff.2 ⟨_, _, hcore, hextra, by decide⟩
    · exact (hmeans index hindex "p.C").missing_iff.2 (by decide)

end JavaDeps.Maven
