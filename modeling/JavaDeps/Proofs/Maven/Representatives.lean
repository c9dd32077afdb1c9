import JavaDeps.Maven.ClassIndex
import JavaDeps.Proofs.Sorted.Membership

/-!
# One artifact for each label

Several artifacts may provide one class, and several of them may carry one label. `candidates` sorts
them by label and then by coordinate, and keeps the first of each run of one label. **What is kept
is one artifact for each label, the one with the smallest coordinate**: the relation `Represents`
says so without sorting anything, so the answer to a look-up depends on nothing but which artifacts
provide the class.
-/

namespace JavaDeps.Maven

/-! ### The order of artifacts -/

instance : Std.TransCmp Artifact.compareByLabel :=
  inferInstanceAs (Std.TransCmp (compareLex (compareOn Artifact.label)
    (compareOn Artifact.coordinate)))

/-- Whether artifacts are listed by label, and those of one label by coordinate. -/
def InOrder (artifacts : List Artifact) : Prop :=
  artifacts.Pairwise fun a b ↦ (a.compareByLabel b).isLE

theorem inOrder_mergeSort (artifacts : List Artifact) :
    InOrder (artifacts.mergeSort fun a b ↦ (a.compareByLabel b).isLE) :=
  pairwise_mergeSort_isLE Artifact.compareByLabel artifacts

theorem Artifact.label_isLE {a b : Artifact} (h : (a.compareByLabel b).isLE) :
    (compare a.label b.label).isLE :=
  (Ordering.isLE_then_iff_and.1 h).1

/-- Artifacts of one label are ordered by their coordinates. -/
theorem Artifact.coordinate_isLE {a b : Artifact} (h : (a.compareByLabel b).isLE)
    (hlabel : b.label = a.label) : (compare a.coordinate b.coordinate).isLE := by
  have hself : compare a.label b.label = .eq := Std.LawfulEqOrd.compare_eq_iff_eq.2 hlabel.symm
  rcases (Ordering.isLE_then_iff_and.1 h).2 with hlt | hle
  · rw [hself] at hlt
    cases hlt
  · exact hle

/-! ### Representatives -/

/-- Whether an artifact stands for its label among those of a kind: none of that label has a smaller
coordinate. -/
structure Represents (kind : Artifact → Prop) (a : Artifact) : Prop where
  isKind : kind a
  least : ∀ b, kind b → b.label = a.label → (compare a.coordinate b.coordinate).isLE

/-- A label has one representative at most. -/
theorem Represents.unique {kind : Artifact → Prop} {a b : Artifact} (ha : Represents kind a)
    (hb : Represents kind b) (hlabel : a.label = b.label) : a = b := by
  have hcoordinate : a.coordinate = b.coordinate := Std.LawfulEqOrd.compare_eq_iff_eq.1
    (Std.OrientedCmp.isLE_antisymm (ha.least b hb.isKind hlabel.symm) (hb.least a ha.isKind hlabel))
  cases a
  cases b
  simp_all

namespace ClassIndex

/-- No artifact is added by keeping the first of each label. -/
theorem firstOfEachLabel_subset {artifacts : List Artifact} {a : Artifact}
    (h : a ∈ firstOfEachLabel artifacts) : a ∈ artifacts := by
  induction artifacts generalizing a with
  | nil => exact h
  | cons first rest ih =>
    rw [firstOfEachLabel] at h
    rcases hkept : firstOfEachLabel rest with - | ⟨b, more⟩
    · simp_all
    · rw [hkept] at h ih
      dsimp only at h
      split at h <;> grind

/-- The labels of what is kept increase. -/
theorem firstOfEachLabel_increasing {artifacts : List Artifact} (h : InOrder artifacts) :
    (firstOfEachLabel artifacts).Pairwise fun a b ↦ compare a.label b.label = .lt := by
  induction artifacts with
  | nil => exact .nil
  | cons first rest ih =>
    obtain ⟨hfirst, hrest⟩ := List.pairwise_cons.1 h
    have ih := ih hrest
    rw [firstOfEachLabel]
    rcases hkept : firstOfEachLabel rest with - | ⟨b, more⟩
    · exact List.pairwise_singleton _ _
    · have hb : b ∈ rest := firstOfEachLabel_subset (hkept ▸ List.mem_cons_self)
      have hle : (compare first.label b.label).isLE := Artifact.label_isLE (hfirst b hb)
      rw [hkept] at ih
      obtain ⟨hmore, hincreasing⟩ := List.pairwise_cons.1 ih
      dsimp only
      split
      · next hsame => exact List.pairwise_cons.2 ⟨hsame ▸ hmore, hincreasing⟩
      · next hother =>
        have hlt : compare first.label b.label = .lt := by
          rcases Ordering.isLE_iff_eq_lt_or_eq_eq.1 hle with hlt | heq
          · exact hlt
          · exact absurd (Std.LawfulEqOrd.compare_eq_iff_eq.1 heq) hother
        refine List.pairwise_cons.2 ⟨fun c hc ↦ ?_, ih⟩
        rcases List.mem_cons.1 hc with rfl | hc
        · exact hlt
        · exact Std.TransCmp.lt_trans hlt (hmore c hc)

/-- The first of some artifacts in order is kept, and takes the place of what has its label. -/
theorem mem_firstOfEachLabel_cons {first a : Artifact} {rest : List Artifact}
    (h : InOrder (first :: rest)) :
    a ∈ firstOfEachLabel (first :: rest) ↔
      a = first ∨ a ∈ firstOfEachLabel rest ∧ a.label ≠ first.label := by
  obtain ⟨hfirst, hrest⟩ := List.pairwise_cons.1 h
  have hincreasing := firstOfEachLabel_increasing hrest
  rw [firstOfEachLabel]
  rcases hkept : firstOfEachLabel rest with - | ⟨b, more⟩
  · simp
  · rw [hkept] at hincreasing
    have hmore : ∀ c ∈ more, c.label ≠ b.label := fun c hc ↦
      (ne_of_compare_eq_lt ((List.pairwise_cons.1 hincreasing).1 c hc)).symm
    dsimp only
    split
    · next hsame =>
      simp only [List.mem_cons]
      grind
    · next hother =>
      -- `first` comes before `b`, and `b` before all others, so no label is that of `first`
      have hb : b ∈ rest := firstOfEachLabel_subset (hkept ▸ List.mem_cons_self)
      have hle : (compare first.label b.label).isLE := Artifact.label_isLE (hfirst b hb)
      have hmore' : ∀ c ∈ more, c.label ≠ first.label := by
        intro c hc hsame
        have hlt := (List.pairwise_cons.1 hincreasing).1 c hc
        rw [hsame] at hlt
        have heq := Std.OrientedCmp.isLE_antisymm hle (Ordering.isLE_of_eq_lt hlt)
        exact hother (Std.LawfulEqOrd.compare_eq_iff_eq.1 heq)
      simp only [List.mem_cons]
      grind

/-- **What is kept are the representatives.** -/
theorem mem_firstOfEachLabel {artifacts : List Artifact} (h : InOrder artifacts) {a : Artifact} :
    a ∈ firstOfEachLabel artifacts ↔ Represents (· ∈ artifacts) a := by
  induction artifacts with
  | nil => exact ⟨fun ha ↦ absurd ha List.not_mem_nil, fun ha ↦ absurd ha.isKind List.not_mem_nil⟩
  | cons first rest ih =>
    obtain ⟨hfirst, hrest⟩ := List.pairwise_cons.1 h
    have hstands : Represents (· ∈ first :: rest) first := by
      refine ⟨List.mem_cons_self, fun b hb hlabel ↦ ?_⟩
      rcases List.mem_cons.1 hb with rfl | hb
      · rw [Std.ReflOrd.compare_self]
        rfl
      · exact Artifact.coordinate_isLE (hfirst b hb) hlabel
    rw [mem_firstOfEachLabel_cons h, ih hrest]
    constructor
    · rintro (rfl | ⟨ha, hlabel⟩)
      · exact hstands
      · refine ⟨List.mem_cons_of_mem _ ha.isKind, fun b hb hsame ↦ ?_⟩
        rcases List.mem_cons.1 hb with rfl | hb
        · exact absurd hsame.symm hlabel
        · exact ha.least b hb hsame
    · intro ha
      by_cases hlabel : a.label = first.label
      · exact .inl (ha.unique hstands hlabel)
      · have hmem : a ∈ rest :=
          (List.mem_cons.1 ha.isKind).resolve_left fun heq ↦ hlabel (heq ▸ rfl)
        exact .inr ⟨⟨hmem, fun b hb ↦ ha.least b (List.mem_cons_of_mem _ hb)⟩, hlabel⟩

/-- Every label is kept. -/
theorem exists_mem_firstOfEachLabel {artifacts : List Artifact} (h : InOrder artifacts)
    {a : Artifact} (ha : a ∈ artifacts) : ∃ b ∈ firstOfEachLabel artifacts, b.label = a.label := by
  induction artifacts with
  | nil => exact absurd ha List.not_mem_nil
  | cons first rest ih =>
    rcases List.mem_cons.1 ha with rfl | ha
    · exact ⟨a, (mem_firstOfEachLabel_cons h).2 (.inl rfl), rfl⟩
    · obtain ⟨b, hb, hlabel⟩ := ih (List.pairwise_cons.1 h).2 ha
      by_cases hsame : b.label = first.label
      · exact ⟨first, (mem_firstOfEachLabel_cons h).2 (.inl rfl), hsame ▸ hlabel⟩
      · exact ⟨b, (mem_firstOfEachLabel_cons h).2 (.inr ⟨hb, hsame⟩), hlabel⟩

/-! ### Candidates -/

variable {index : ClassIndex} {symbol : String}

theorem candidates_increasing :
    (index.candidates symbol).Pairwise fun a b ↦ compare a.label b.label = .lt :=
  firstOfEachLabel_increasing (inOrder_mergeSort _)

theorem mem_candidates {a : Artifact} :
    a ∈ index.candidates symbol ↔ Represents (· ∈ index.providersOf symbol) a := by
  rw [candidates, mem_firstOfEachLabel (inOrder_mergeSort _)]
  simp only [List.mem_mergeSort]

theorem exists_mem_candidates {a : Artifact} (h : a ∈ index.providersOf symbol) :
    ∃ b ∈ index.candidates symbol, b.label = a.label :=
  exists_mem_firstOfEachLabel (inOrder_mergeSort _) (List.mem_mergeSort.2 h)

/-- Candidates are known by the artifacts that they are chosen from. -/
theorem candidates_congr {other : ClassIndex}
    (h : ∀ a, a ∈ index.providersOf symbol ↔ a ∈ other.providersOf symbol) :
    index.candidates symbol = other.candidates symbol := by
  have hirrefl : Std.Irrefl fun a b : Artifact ↦ compare a.label b.label = .lt :=
    ⟨fun a ha ↦ by rw [Std.ReflOrd.compare_self] at ha; cases ha⟩
  have hantisymm : Std.Antisymm fun a b : Artifact ↦ compare a.label b.label = .lt :=
    ⟨fun _ _ hab hba ↦ absurd hba (Std.OrientedCmp.not_lt_of_lt hab)⟩
  have hkind : (· ∈ index.providersOf symbol) = (· ∈ other.providersOf symbol) :=
    funext fun a ↦ propext (h a)
  refine candidates_increasing.eq_of_mem_iff candidates_increasing fun a ↦ ?_
  rw [mem_candidates, mem_candidates, hkind]

end ClassIndex

end JavaDeps.Maven
