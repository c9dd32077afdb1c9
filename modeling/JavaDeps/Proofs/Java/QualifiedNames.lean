import JavaDeps.Proofs.Java.Relexing
import JavaDeps.Proofs.Text.Separated

/-!
# Qualified names and their segments

A qualified name is a text, and its segments are what its dots separate. **Joining segments and
taking a name apart undo each other** (`segmentsOf_dotted`, `dotted_segmentsOf`), as long as no
segment holds a dot; and no identifier of a source does (`dot_not_mem_of_mem_tokens`). What the
first capitalised segment cuts off is said by a rule (`LeadsTo`), apart from how it is found.
-/

namespace JavaDeps.Java

/-! ### Segments -/

/-- The segments of a qualified name. -/
def segmentsOf (name : String) : List String :=
  (name.toList.splitOn '.').map String.ofList

theorem dotted_cons {s : String} {names : List String} (hnames : names ≠ []) :
    dotted (s :: names) = s ++ "." ++ dotted names :=
  String.intercalate_cons_of_ne_nil hnames

/-- **The segments of a name are those that it was joined from.** -/
theorem segmentsOf_dotted {names : List String} (hnames : names ≠ [])
    (hdot : ∀ s ∈ names, '.' ∉ s.toList) : segmentsOf (dotted names) = names := by
  rw [segmentsOf, dotted, splitOn_toList_intercalate rfl hnames hdot, List.map_map]
  exact List.map_id'' (fun _ ↦ String.ofList_toList) _

theorem dotted_segmentsOf (name : String) : dotted (segmentsOf name) = name :=
  intercalate_splitOn_toList rfl name

/-! ### Up to the type -/

/-- **The part of a name that leads to a type**: through the first capitalised segment, or all of it
if no segment is capitalised. No segments are no name, and lead nowhere. -/
inductive LeadsTo : List String → List String → Prop
  | type {packages members : List String} {type : String}
    (hpackages : ∀ s ∈ packages, isCapitalized s = false) (htype : isCapitalized type = true) :
    LeadsTo (packages ++ type :: members) (packages ++ [type])
  | noType {names : List String} (hnames : names ≠ [])
    (h : ∀ s ∈ names, isCapitalized s = false) : LeadsTo names names

/-- The first capitalized segment is where a type ends, if there is one. -/
theorem upToType_append {packages : List String} {type : String}
    (hpackages : ∀ s ∈ packages, isCapitalized s = false) (htype : isCapitalized type = true)
    (members : List String) : upToType (packages ++ type :: members) = packages ++ [type] := by
  induction packages with
  | nil => rw [List.nil_append, upToType, if_pos htype, List.nil_append]
  | cons s rest ih =>
    obtain ⟨hs, hrest⟩ := List.forall_mem_cons.1 hpackages
    rw [List.cons_append, upToType, hs, if_neg Bool.false_ne_true, ih hrest, List.cons_append]

/-- Without a capitalized segment all of the name is kept. -/
theorem upToType_eq_self {names : List String} (h : ∀ s ∈ names, isCapitalized s = false) :
    upToType names = names := by
  induction names with
  | nil => rfl
  | cons s rest ih =>
    obtain ⟨hs, hrest⟩ := List.forall_mem_cons.1 h
    rw [upToType, hs, if_neg Bool.false_ne_true, ih hrest]

/-- Some segment of a name is the first capitalised one, or none is. -/
theorem exists_type_or_forall (names : List String) :
    (∃ packages type members, names = packages ++ type :: members ∧
      (∀ s ∈ packages, isCapitalized s = false) ∧ isCapitalized type = true) ∨
      ∀ s ∈ names, isCapitalized s = false := by
  rcases hfind : names.find? isCapitalized with - | type
  · exact .inr (by simpa using hfind)
  · obtain ⟨htype, packages, members, rfl, hpackages⟩ := List.find?_eq_some_iff_append.1 hfind
    exact .inl ⟨packages, type, members, rfl, by simpa using hpackages, htype⟩

/-- A name leads to the one that it has up to its type. -/
theorem leadsTo_iff {names names' : List String} :
    LeadsTo names names' ↔ names ≠ [] ∧ upToType names = names' := by
  constructor
  · rintro (⟨hpackages, htype⟩ | ⟨hnames, h⟩)
    · exact ⟨by simp, upToType_append hpackages htype _⟩
    · exact ⟨hnames, upToType_eq_self h⟩
  · rintro ⟨hnames, rfl⟩
    rcases exists_type_or_forall names with ⟨packages, type, members, rfl, hpackages, htype⟩ | h
    · rw [upToType_append hpackages htype]
      exact .type hpackages htype
    · rw [upToType_eq_self h]
      exact .noType hnames h

namespace LeadsTo

variable {names names' : List String}

/-- Nothing before the last segment is capitalised. -/
theorem dropLast (h : LeadsTo names names') : ∀ s ∈ names'.dropLast, isCapitalized s = false := by
  cases h with
  | type hpackages _ => simpa using hpackages
  | noType _ h => exact fun s hs ↦ h s (List.dropLast_subset _ hs)

theorem subset (h : LeadsTo names names') : names' ⊆ names := by
  cases h with
  | type => simp
  | noType => exact List.Subset.refl _

theorem ne_nil (h : LeadsTo names names') : names' ≠ [] := by
  cases h with
  | type => simp
  | noType hnames _ => exact hnames

end LeadsTo

/-! ### The identifiers of a source -/

/-- A word is made of letters and the like, and so has no dots. -/
theorem dot_not_mem_of_pieceAt {c : Char} {rest : List Char} {n : Nat}
    (h : pieceAt c rest = ⟨.token .identifier, n⟩) : '.' ∉ c :: rest.take n := by
  rcases stable_pieceAt_or c with hstable | hword
  · exact absurd rfl (hstable rest _ n h).1
  · have hc : c ≠ '.' := by
      rintro rfl
      have hdot : pieceAt '.' rest = dotPiece rest := rfl
      rw [hdot, dotPiece.eq_def] at h
      split at h <;> cases h
    rw [hword] at h
    obtain ⟨-, rfl⟩ := Piece.mk.inj h
    rw [take_length_takeWhile, List.mem_cons, not_or]
    refine ⟨hc.symm, fun hmem ↦ ?_⟩
    have hpart : isWordPart '.' = true := List.mem_takeWhile_imp hmem
    revert hpart
    decide +kernel

/-- The text of a token is what is cut off for it. -/
theorem exists_pieceAt_of_mem_piecesFrom {offset : Nat} {cs : List Char} {p : SourcePiece}
    (h : p ∈ piecesFrom offset cs) :
    ∃ c rest, p.kind = (pieceAt c rest).kind ∧
      p.text.toList = c :: rest.take (pieceAt c rest).more := by
  fun_induction piecesFrom offset cs with
  | case1 => cases h
  | case2 offset c rest piece text ih =>
    rcases List.mem_cons.1 h with rfl | h
    · exact ⟨c, rest, rfl, String.toList_ofList⟩
    · exact ih h

/-- **No identifier of a source holds a dot.** -/
theorem dot_not_mem_of_mem_tokens {source : String} {l : Lexeme} (h : l ∈ tokens source)
    (hkind : l.kind = .identifier) : '.' ∉ l.text.toList := by
  obtain ⟨p, hp, hlexeme⟩ := List.mem_filterMap.1 h
  obtain ⟨c, rest, hpiece, htext⟩ := exists_pieceAt_of_mem_piecesFrom hp
  rw [SourcePiece.lexeme?.eq_def] at hlexeme
  split at hlexeme
  · next kind hp =>
    obtain rfl := Option.some.inj hlexeme
    obtain rfl : kind = .identifier := hkind
    rw [htext]
    refine dot_not_mem_of_pieceAt (n := (pieceAt c rest).more) ?_
    rw [← hp, hpiece]
  · cases hlexeme

end JavaDeps.Java
