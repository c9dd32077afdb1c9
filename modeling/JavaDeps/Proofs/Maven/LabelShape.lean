import JavaDeps.Proofs.Maven.LockedClasses

/-!
# The shape of the labels that look-ups answer with

An artifact's own label is checked to have label shape. One that is derived is put together
unchecked: its target is made of letters, digits and underscores, whatever the coordinate, but the
name of the repository is taken as it stands. So **a derived label has label shape exactly if the
repository's name has no white space** (`isLabelShape_ofCoordinate`), and nothing else in a lock
file that is admitted lets a label lose its shape (`build_labels`).
-/

namespace JavaDeps

/-! ### Derived labels -/

namespace Label

/-- Letters and digits of labels are below 128. -/
theorem toNat_lt_of_isAlphanum {c : Char} (h : c.isAlphanum = true) : c.toNat < 128 := by
  have hclass : (decide (c.val ≥ 'A'.val ∧ c.val ≤ 'Z'.val) ||
      (decide (c.val ≥ 'a'.val) && decide (c.val ≤ 'z'.val)) ||
      (decide (c.val ≥ '0'.val) && decide (c.val ≤ '9'.val))) = true := h
  simp only [Bool.or_eq_true, Bool.and_eq_true, decide_eq_true_eq, ge_iff_le,
    UInt32.le_iff_toNat_le] at hclass
  change ((65 ≤ c.toNat ∧ c.toNat ≤ 90) ∨ 97 ≤ c.toNat ∧ c.toNat ≤ 122) ∨
    48 ≤ c.toNat ∧ c.toNat ≤ 57 at hclass
  omega

/-- No letter or digit is white space. -/
theorem isWhiteSpace_of_isAlphanum {c : Char} (h : c.isAlphanum = true) :
    Unicode.isWhiteSpace c = false := by
  have hall : ∀ n < 128, (Char.ofNat n).isAlphanum = true →
      Unicode.isWhiteSpace (Char.ofNat n) = false := by
    decide +kernel
  have hc := hall c.toNat (toNat_lt_of_isAlphanum h)
  rw [Char.ofNat_toNat] at hc
  exact hc h

/-- The name of a target has no white space, whatever it is made of. -/
theorem isWhiteSpace_targetChar (c : Char) : Unicode.isWhiteSpace (targetChar c) = false := by
  rw [targetChar]
  split
  · next h => exact isWhiteSpace_of_isAlphanum h
  · decide +kernel

/-- A text with two slashes in a row has a double slash. -/
theorem hasDoubleSlash_append (before after : List Char) :
    hasDoubleSlash (before ++ '/' :: '/' :: after) = true := by
  induction before with
  | nil => rfl
  | cons c before ih =>
    rw [List.cons_append, hasDoubleSlash.eq_def]
    split <;> simp_all

/-- **A derived label has label shape exactly if the repository's name has no white space.** -/
theorem isLabelShape_ofCoordinate (name : String) (c : Maven.Coordinate) :
    isLabelShape (ofCoordinate name c).text.toList = !name.toList.any Unicode.isWhiteSpace := by
  obtain ⟨target, htext⟩ : ∃ target : List Char, (ofCoordinate name c).text.toList =
      '@' :: (name.toList ++ '/' :: '/' :: ':' :: target.map targetChar) := by
    refine ⟨("_".intercalate ([c.group, c.artifact] ++ c.classifier.toList)).toList, ?_⟩
    simp [ofCoordinate]
  have hsigns : Unicode.isWhiteSpace '@' = false ∧ Unicode.isWhiteSpace '/' = false ∧
      Unicode.isWhiteSpace ':' = false := by
    decide +kernel
  have hclean : (target.map targetChar).any Unicode.isWhiteSpace = false := by
    simp [isWhiteSpace_targetChar]
  have hslashes := hasDoubleSlash_append ('@' :: name.toList) (':' :: target.map targetChar)
  rw [List.cons_append] at hslashes
  rw [htext, isLabelShape, hslashes]
  simp [hsigns, hclean]

theorem parse?_eq_some_iff {l : Label} :
    parse? l.text = some l ↔ isLabelShape l.text.toList = true := by
  rw [parse?]
  split <;> simp_all

end Label

namespace Maven

/-- **The label that an entry carries can be parsed** unless it was made from a repository with
white space in its name. -/
theorem Carries.parse?_iff {repository : Option String} {locked : LockedArtifact} {c : Coordinate}
    {l : Label} (h : Carries repository locked c l) :
    Label.parse? l.text = some l ↔ ¬ (locked.label = none ∧
      ∃ name, repository = some name ∧ name.toList.any Unicode.isWhiteSpace = true) := by
  rw [Label.parse?_eq_some_iff]
  cases h with
  | own hown hshape => simp [hown, hshape]
  | derived hnone hname => simp [hnone, hname, Label.isLabelShape_ofCoordinate]

/-! ### Labels in answers -/

/-- Whether an artifact has its label from a repository whose name has white space in it. -/
def LabelledFromBlank (lock : LockFile) (a : Artifact) : Prop :=
  ∃ locked ∈ lock.artifacts, StandsFor lock.repository locked a ∧ locked.label = none ∧
    ∃ name, lock.repository = some name ∧ name.toList.any Unicode.isWhiteSpace = true

/-- An index is built from the lock file that the bytes hold. -/
theorem ClassIndex.exists_of_build {bytes : List UInt8} {index : ClassIndex}
    (h : ClassIndex.build bytes = .ok index) :
    ∃ lock, LockFile.read bytes = .ok lock ∧ ClassIndex.ofLockFile lock = .ok index := by
  rw [ClassIndex.build] at h
  split at h
  · cases h
  · next lock hread => exact ⟨lock, hread, h⟩

/-- **The labels that an index answers with have label shape, but for those that are derived from a
repository whose name has white space.** -/
theorem build_labels {bytes : List UInt8} {index : ClassIndex}
    (h : ClassIndex.build bytes = .ok index) :
    ∃ lock, LockFile.read bytes = .ok lock ∧
      ∀ symbol, ∀ a ∈ (index.resolve symbol).artifacts,
        (Label.parse? a.label.text = some a.label ↔ ¬ LabelledFromBlank lock a) := by
  obtain ⟨lock, hread, hindex⟩ := ClassIndex.exists_of_build h
  refine ⟨lock, hread, fun symbol a ha ↦ ?_⟩
  have hprovides : Provides lock symbol a :=
    ((ClassIndex.means_resolve hindex symbol).mem_artifacts a).1 ha |>.isKind
  obtain ⟨locked, hlocked, -, hstands⟩ := hprovides
  constructor
  · rintro hshape ⟨other, -, hother, hblank⟩
    exact hother.label.parse?_iff.1 hshape hblank
  · intro hclean
    exact hstands.label.parse?_iff.2 fun hblank ↦ hclean ⟨locked, hlocked, hstands, hblank⟩

/-- A lock file whose repository has a blank in its name. -/
def spacedText : String :=
  "\x7b\"version\":1,\"repository\":\"my repo\"," ++
    "\"artifacts\":[\x7b\"coordinate\":\"a:b:1\",\"classes\":[\"x.A\"]\x7d]\x7d"

/-- Its one artifact, under a label that is none. -/
def spacedArtifact : Artifact := ⟨⟨"a", "b", none, none, "1"⟩, ⟨"@my repo//:a_b"⟩⟩

/-- The index of the lock file. -/
def spacedIndex : ClassIndex := ⟨[⟨spacedArtifact, ["x.A"]⟩]⟩

theorem build_spacedText : ClassIndex.build (Utf8.encode spacedText) = .ok spacedIndex := by
  decide +kernel

theorem mem_resolve_spacedIndex : spacedArtifact ∈ (spacedIndex.resolve "x.A").artifacts := by
  decide +kernel

/-- Where the name of the repository has a blank in it, the label that is made from it cannot be
parsed. -/
theorem build_labels_of_spaced :
    ClassIndex.build (Utf8.encode spacedText) = .ok spacedIndex ∧
      Label.parse? spacedArtifact.label.text ≠ some spacedArtifact.label ∧
      ∃ lock, LockFile.read (Utf8.encode spacedText) = .ok lock ∧
        LabelledFromBlank lock spacedArtifact := by
  have hshape : Label.parse? spacedArtifact.label.text ≠ some spacedArtifact.label := by
    decide +kernel
  obtain ⟨lock, hread, hlabels⟩ := build_labels build_spacedText
  have hlabel := hlabels "x.A" spacedArtifact mem_resolve_spacedIndex
  exact ⟨build_spacedText, hshape, lock, hread, not_not.1 (mt hlabel.2 hshape)⟩

/-- **It is not so that every label that an index gives out can be parsed**: the repository stands
in it as it is written. -/
theorem not_forall_label_parses : ¬ ∀ bytes index symbol, ClassIndex.build bytes = .ok index →
    ∀ a ∈ (index.resolve symbol).artifacts, (Label.parse? a.label.text).isSome = true := by
  intro h
  have hlabel := h _ _ "x.A" build_spacedText spacedArtifact mem_resolve_spacedIndex
  have hshape : (Label.parse? spacedArtifact.label.text).isSome = false := by decide +kernel
  rw [hshape] at hlabel
  exact Bool.false_ne_true hlabel

end Maven

end JavaDeps
