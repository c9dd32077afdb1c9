import JavaDeps.Maven.Coordinate
import JavaDeps.Proofs.Text.Separated

/-!
# Coordinates and their texts

A coordinate is read from three to five segments between colons, and its text puts them there again.
**Reading and writing agree on the coordinates that can be written** (`Coordinate.IsWritable`): none
of their segments is empty or holds a colon or white space, and a classifier comes only after a
packaging, whose place it would take otherwise.
-/

namespace JavaDeps.Maven

namespace Coordinate

/-! ### Segments -/

/-- Whether a text can stand between the colons of a coordinate: there is something in it, but
neither a colon nor white space. -/
def IsSegment (s : String) : Prop :=
  s ≠ "" ∧ ∀ c ∈ s.toList, c ≠ ':' ∧ Unicode.isWhiteSpace c = false

/-- Whether a coordinate can be written down: all of its segments can, and there is a packaging if
there is a classifier. -/
structure IsWritable (c : Coordinate) : Prop where
  segments : ∀ s ∈ c.segments, IsSegment s
  classifier : c.classifier.isSome → c.packaging.isSome

theorem segments_ne_nil (c : Coordinate) : c.segments ≠ [] :=
  List.append_ne_nil_of_right_ne_nil _ (List.cons_ne_nil _ _)

/-- The segments tell the coordinate, unless a classifier is taken for the packaging. -/
theorem ofSegments?_eq_some_iff {segments : List String} {c : Coordinate} :
    ofSegments? segments = some c ↔
      c.segments = segments ∧ (c.classifier.isSome → c.packaging.isSome) := by
  constructor
  · intro h
    unfold ofSegments? at h
    split at h <;> cases h
    · exact ⟨rfl, id⟩
    · exact ⟨rfl, fun _ ↦ rfl⟩
    · exact ⟨rfl, fun _ ↦ rfl⟩
  · rintro ⟨rfl, hclassifier⟩
    obtain ⟨group, artifact, packaging, classifier, version⟩ := c
    rcases packaging with - | packaging <;> rcases classifier with - | classifier
    · rfl
    · cases hclassifier rfl
    · rfl
    · rfl

/-- The pieces are all in order just if none is empty and none has white space in it. -/
theorem any_blank_eq_false_iff {pieces : List (List Char)} :
    pieces.any (·.all Unicode.isWhiteSpace) = false ∧
        pieces.any (·.any Unicode.isWhiteSpace) = false ↔
      ∀ piece ∈ pieces, piece ≠ [] ∧ ∀ ch ∈ piece, Unicode.isWhiteSpace ch = false := by
  simp only [List.any_eq_false, List.all_eq_true, ← forall_and, Bool.not_eq_true]
  refine forall₂_congr fun piece _ ↦ and_congr_left fun hblank ↦ not_congr ?_
  -- with no white space in it, only an empty piece has nothing else
  constructor
  · intro hall
    refine List.eq_nil_iff_forall_not_mem.2 fun ch hch ↦ ?_
    exact Bool.false_ne_true ((hblank ch hch).symm.trans (hall ch hch))
  · rintro rfl ch hch
    exact absurd hch List.not_mem_nil

/-- A text is read if none of its pieces is empty or holds white space, and they make a
coordinate. -/
theorem parse_eq_ok_iff_pieces {text : String} {c : Coordinate} :
    parse text = .ok c ↔
      (∀ piece ∈ text.toList.splitOn ':', piece ≠ [] ∧
        ∀ ch ∈ piece, Unicode.isWhiteSpace ch = false) ∧
      ofSegments? ((text.toList.splitOn ':').map String.ofList) = some c := by
  rw [parse, ← any_blank_eq_false_iff]
  generalize text.toList.splitOn ':' = pieces
  rcases pieces.any (·.all Unicode.isWhiteSpace) with - | -
  · rcases pieces.any (·.any Unicode.isWhiteSpace) with - | -
    · rcases ofSegments? (pieces.map String.ofList) with - | d
      · simp
      · simp
    · simp
  · simp

/-- **Reading a text gives the coordinate that can be written and has that text**, and fails if
there is none. -/
theorem parse_eq_ok_iff {text : String} {c : Coordinate} :
    parse text = .ok c ↔ c.IsWritable ∧ c.text = text := by
  rw [parse_eq_ok_iff_pieces, ofSegments?_eq_some_iff]
  constructor
  · rintro ⟨hpieces, hsegments, hclassifier⟩
    refine ⟨⟨fun s hs ↦ ?_, hclassifier⟩, ?_⟩
    · rw [hsegments] at hs
      obtain ⟨piece, hpiece, rfl⟩ := List.mem_map.1 hs
      obtain ⟨hne, hblank⟩ := hpieces piece hpiece
      refine ⟨fun hempty ↦ hne (String.ofList_eq_empty_iff.1 hempty), fun ch hch ↦ ?_⟩
      rw [String.toList_ofList] at hch
      exact ⟨fun hcolon ↦ not_mem_of_mem_splitOn hpiece (hcolon ▸ hch), hblank ch hch⟩
    · rw [Coordinate.text, hsegments]
      exact intercalate_splitOn_toList rfl text
  · rintro ⟨⟨hsegments, hclassifier⟩, rfl⟩
    have hpieces : c.text.toList.splitOn ':' = c.segments.map String.toList :=
      splitOn_toList_intercalate rfl c.segments_ne_nil fun s hs hcolon ↦
        ((hsegments s hs).2 ':' hcolon).1 rfl
    rw [hpieces, List.map_map]
    refine ⟨fun piece hpiece ↦ ?_, (List.map_id'' (fun _ ↦ String.ofList_toList) _).symm,
      hclassifier⟩
    obtain ⟨s, hs, rfl⟩ := List.mem_map.1 hpiece
    obtain ⟨hne, hchars⟩ := hsegments s hs
    exact ⟨fun hnil ↦ hne (String.toList_eq_nil_iff.1 hnil), fun ch hch ↦ (hchars ch hch).2⟩

/-- **A text that is a coordinate is the text of what it reads as.** -/
theorem text_of_parse {text : String} {c : Coordinate} (h : parse text = .ok c) : c.text = text :=
  (parse_eq_ok_iff.1 h).2

/-- A classifier without a packaging is read as the packaging. -/
example : parse (text ⟨"g", "a", none, some "sources", "1"⟩) =
    .ok ⟨"g", "a", some "sources", none, "1"⟩ := by
  decide +kernel

end Coordinate

end JavaDeps.Maven
