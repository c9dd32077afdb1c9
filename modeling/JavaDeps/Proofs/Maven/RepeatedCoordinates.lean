import JavaDeps.Proofs.Maven.LockedClasses

/-!
# Coordinates that are listed twice

A lock file is refused for the first artifact with a fault, and the artifacts before that have none
(`firstOffence_iff`). **If the fault is that an artifact before has the same coordinate, both spell
it alike** (`offends_duplicate_iff`), since a coordinate has one text that reads as it.
-/

namespace JavaDeps.Maven

variable {repository : Option String}

/-- An artifact without a fault is admitted. -/
theorem exists_admitted {before : List LockedArtifact} {locked : LockedArtifact}
    (h : ∀ e, ¬ Offends repository before locked e) : ∃ a, Admitted repository before locked a := by
  let seen := before.filterMap fun other ↦ (Coordinate.parse other.coordinate).toOption
  have hseen : ∀ c, c ∈ seen ↔ Listed before c := fun c ↦ by
    rw [List.mem_filterMap, Listed]
    refine exists_congr fun other ↦ and_congr_right fun _ ↦ ?_
    cases Coordinate.parse other.coordinate <;> simp [Except.toOption]
  rcases ClassIndex.checkArtifact_cases hseen repository locked with ⟨e, -, he⟩ | ⟨a, -, ha⟩
  · exact absurd he (h e)
  · exact ⟨a, ha⟩

/-- The first artifact with a fault comes after artifacts that have none. -/
theorem firstOffence_iff {before artifacts : List LockedArtifact} {e : LockError} :
    FirstOffence repository before artifacts e ↔
      ∃ passed locked rest, artifacts = passed ++ locked :: rest ∧
        (∃ providers, AllAdmitted repository before passed providers) ∧
        Offends repository (before ++ passed) locked e := by
  constructor
  · intro h
    induction h with
    | here h => exact ⟨[], _, _, rfl, ⟨[], .nil⟩, by rwa [List.append_nil]⟩
    | later hnone h ih =>
      obtain ⟨a, ha⟩ := exists_admitted hnone
      obtain ⟨passed, locked, rest, rfl, ⟨providers, hall⟩, hoffends⟩ := ih
      refine ⟨_ :: passed, locked, rest, rfl, ⟨_, .cons ha hall⟩, ?_⟩
      rwa [List.append_assoc] at hoffends
  · rintro ⟨passed, locked, rest, rfl, ⟨providers, hall⟩, hoffends⟩
    induction hall with
    | nil => exact .here (by rwa [List.append_nil] at hoffends)
    | cons h _ ih =>
      refine .later (fun _ ↦ h.not_offends) (ih ?_)
      rwa [List.append_assoc]

/-- What is reported as listed twice has the text of an artifact before it. -/
theorem offends_duplicate_iff {before : List LockedArtifact} {locked : LockedArtifact}
    {text : String} :
    Offends repository before locked (.duplicateCoordinate text) ↔
      locked.coordinate = text ∧ ∃ other ∈ before, other.coordinate = text ∧
        ∃ c, Coordinate.parse text = .ok c := by
  constructor
  · intro h
    cases h with
    | duplicate hparse hlisted =>
      obtain ⟨other, hother, hparse'⟩ := hlisted
      have htext := Coordinate.text_of_parse hparse
      exact ⟨rfl, other, hother, (Coordinate.text_of_parse hparse').symm.trans htext, _, hparse⟩
    | label _ _ hfault => cases hfault
  · rintro ⟨rfl, other, hother, hsame, c, hparse⟩
    exact .duplicate hparse ⟨other, hother, hsame ▸ hparse⟩

/-- **Coordinates and their texts determine each other.** Reading a text gives a coordinate exactly
if the coordinate can be written and the text is its text. So the coordinate that a lock file is
refused for, since an artifact before has it too, is spelled alike in both: the lock file is refused
for that exactly if the artifacts before the second of them have no fault. -/
theorem coordinate_texts :
    (∀ (text : String) (c : Coordinate),
      Coordinate.parse text = .ok c ↔ c.IsWritable ∧ c.text = text) ∧
    ∀ (lock : LockFile) (text : String),
      ClassIndex.ofLockFile lock = .error (.duplicateCoordinate text) ↔
        ∃ before locked rest, lock.artifacts = before ++ locked :: rest ∧
          IsSound lock.repository before ∧ locked.coordinate = text ∧
          ∃ other ∈ before, other.coordinate = text := by
  refine ⟨fun _ _ ↦ Coordinate.parse_eq_ok_iff, fun lock text ↦ ?_⟩
  rw [ClassIndex.ofLockFile_eq_error_iff, firstOffence_iff]
  refine exists_congr fun before ↦ exists_congr fun locked ↦ exists_congr fun rest ↦
    and_congr_right fun _ ↦ ?_
  rw [List.nil_append, exists_allAdmitted_iff, offends_duplicate_iff]
  constructor
  · rintro ⟨⟨hsound, -⟩, htext, other, hother, hsame, -⟩
    exact ⟨hsound, htext, other, hother, hsame⟩
  · rintro ⟨hsound, htext, other, hother, hsame⟩
    obtain ⟨c, hparse⟩ := hsound.coordinates other hother
    refine ⟨⟨hsound, by simp⟩, htext, other, hother, hsame, c, ?_⟩
    rwa [← hsame]

end JavaDeps.Maven
