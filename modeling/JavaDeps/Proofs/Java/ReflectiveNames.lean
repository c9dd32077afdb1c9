import JavaDeps.Proofs.Java.Chains
import JavaDeps.Proofs.Java.QualifiedNames
import JavaDeps.Proofs.Java.StatementSpans
import Mathlib.Data.Option.Basic

/-!
# Classes named in string literals

A string literal that is passed to a call such as `forName` names a class if it is made of segments
of which one is capitalised (`NamesClass`). What is kept of it ends at the first capitalised segment
and before the first `$`, which sets a nested class apart from the class that holds it.

**Both cuts are made after the literal was found well formed, and can undo what was found.** A
literal whose first segment is capitalised leaves one segment, and a `$` in a package cuts the name
off within the packages, maybe before its first character. Otherwise what is left is the name of a
class in a package (`mem_reflectiveReferences_iff`).
-/

namespace JavaDeps.Java

/-! ### Names of classes -/

/-- Whether a text reads as the name of a class in a package, and not of a nested one. The last of
its segments is capitalised, and no other one is. -/
structure IsClassName (name : String) : Prop where
  several : 2 ≤ (segmentsOf name).length
  plain : ∀ s ∈ segmentsOf name, s ≠ "" ∧ '$' ∉ s.toList
  last : ∀ s ∈ (segmentsOf name).getLast?, isCapitalized s = true
  others : ∀ s ∈ (segmentsOf name).dropLast, isCapitalized s = false

/-- **A literal that names a class**: its first capitalised segment, behind packages and before the
members. -/
structure NamesClass (literal : String) (packages : List String) (type : String)
    (members : List String) : Prop where
  spelled : literal = "\"" ++ dotted (packages ++ type :: members) ++ "\""
  several : 2 ≤ (packages ++ type :: members).length
  wellFormed : ∀ s ∈ packages ++ type :: members, isClassSegment s.toList = true
  lower : ∀ s ∈ packages, isCapitalized s = false
  capitalized : isCapitalized type = true

/-- A name up to its first `$`, or all of it if there is none. What stands behind is a nested
class. -/
def untilDollar (name : String) : String := String.ofList (name.toList.takeWhile (· != '$'))

/-! ### Reading a literal -/

/-- The text of a literal is what stands between its quotes. -/
theorem unquoted?_eq_some_iff {cs inner : List Char} :
    unquoted? cs = some inner ↔ cs = '"' :: (inner ++ ['"']) := by
  constructor
  · intro h
    rw [unquoted?.eq_def] at h
    split at h
    · next rest =>
      split at h
      · next hlast =>
        obtain ⟨front, rfl⟩ := List.getLast?_eq_some_iff.1 hlast
        obtain rfl := Option.some.inj h
        rw [List.dropLast_concat]
      · cases h
    · cases h
  · rintro rfl
    simp [unquoted?]

/-- A segment of a class name has no dot. -/
theorem dot_not_mem_of_isClassSegment {segment : List Char} (h : isClassSegment segment = true) :
    '.' ∉ segment := by
  intro hdot
  rw [isClassSegment, Bool.and_eq_true, Bool.and_eq_true, List.all_eq_true] at h
  have hpart := h.1.2 '.' hdot
  revert hpart
  decide +kernel

theorem guard_bind_eq_some_iff {α : Type} {p : Prop} [Decidable p] {f : Unit → Option α} {a : α} :
    (guard p >>= f) = some a ↔ p ∧ f () = some a := by
  constructor
  · intro h
    obtain ⟨u, hp, ha⟩ := Option.bind_eq_some_iff.1 h
    exact ⟨(Option.guard_eq_some' u).1 hp, ha⟩
  · rintro ⟨hp, ha⟩
    exact Option.bind_eq_some_iff.2 ⟨(), (Option.guard_eq_some' ()).2 hp, ha⟩

/-- What is checked of a literal before it is cut: segments between dots, two of them at least, each
in the shape of a class segment, and one that is capitalised. -/
structure Checked (literal name : String) : Prop where
  spelled : literal = "\"" ++ name ++ "\""
  several : 2 ≤ (segmentsOf name).length
  wellFormed : ∀ s ∈ segmentsOf name, isClassSegment s.toList = true
  capitalized : ∃ s ∈ segmentsOf name, isCapitalized s = true

/-- **A literal names a class just if its text is checked to be one**, and what is kept is cut off
behind its first capitalised segment, and then at a dollar sign. -/
theorem className?_eq_some_iff_checked {literal kept : String} :
    className? literal = some kept ↔
      ∃ name, Checked literal name ∧ kept = untilDollar (topLevelType (segmentsOf name)) := by
  have hquoted {name : String} :
      literal.toList = '"' :: (name.toList ++ ['"']) ↔ literal = "\"" ++ name ++ "\"" := by
    rw [← String.toList_inj, String.toList_append, String.toList_append]
    rfl
  have hwellFormed {name : String} : (name.toList.splitOn '.').all isClassSegment = true ↔
      ∀ s ∈ segmentsOf name, isClassSegment s.toList = true := by
    simp [segmentsOf]
  constructor
  · intro h
    obtain ⟨inner, hinner, h⟩ := Option.bind_eq_some_iff.1 h
    obtain ⟨hseveral, h⟩ := guard_bind_eq_some_iff.1 h
    obtain ⟨hsegments, h⟩ := guard_bind_eq_some_iff.1 h
    obtain ⟨hcapitalized, h⟩ := guard_bind_eq_some_iff.1 h
    obtain ⟨name, rfl⟩ : ∃ name : String, name.toList = inner := ⟨_, String.toList_ofList⟩
    exact ⟨name, ⟨hquoted.1 (unquoted?_eq_some_iff.1 hinner), by rwa [segmentsOf, List.length_map],
      hwellFormed.1 hsegments, List.any_eq_true.1 hcapitalized⟩, (Option.some.inj h).symm⟩
  · rintro ⟨name, ⟨hspelled, hseveral, hsegments, hcapitalized⟩, rfl⟩
    rw [segmentsOf, List.length_map] at hseveral
    exact Option.bind_eq_some_iff.2 ⟨name.toList, unquoted?_eq_some_iff.2 (hquoted.2 hspelled),
      guard_bind_eq_some_iff.2 ⟨hseveral, guard_bind_eq_some_iff.2 ⟨hwellFormed.2 hsegments,
        guard_bind_eq_some_iff.2 ⟨List.any_eq_true.2 hcapitalized, rfl⟩⟩⟩⟩

/-- **Which literals are read as a class**, and what is kept of them. -/
theorem className?_eq_some_iff {literal kept : String} :
    className? literal = some kept ↔ ∃ packages type members,
      NamesClass literal packages type members ∧
        kept = untilDollar (dotted (packages ++ [type])) := by
  rw [className?_eq_some_iff_checked]
  constructor
  · rintro ⟨name, ⟨hspelled, hseveral, hsegments, ⟨s, hs, hcapitalized⟩⟩, rfl⟩
    rcases exists_type_or_forall (segmentsOf name) with
      ⟨packages, type, members, hnames, hlower, htype⟩ | hnone
    · rw [hnames] at hseveral hsegments ⊢
      rw [← dotted_segmentsOf name, hnames] at hspelled
      rw [topLevelType, upToType_append hlower htype]
      exact ⟨packages, type, members, ⟨hspelled, hseveral, hsegments, hlower, htype⟩, rfl⟩
    · rw [hnone s hs] at hcapitalized
      cases hcapitalized
  · rintro ⟨packages, type, members, ⟨hspelled, hseveral, hsegments, hlower, htype⟩, rfl⟩
    have hnames : segmentsOf (dotted (packages ++ type :: members)) = packages ++ type :: members :=
      segmentsOf_dotted (by simp) fun s hs ↦ dot_not_mem_of_isClassSegment (hsegments s hs)
    refine ⟨dotted (packages ++ type :: members), ⟨hspelled, ?_, ?_, ?_⟩, ?_⟩ <;> rw [hnames]
    · exact hseveral
    · exact hsegments
    · exact ⟨type, by simp, htype⟩
    · rw [topLevelType, upToType_append hlower htype]

/-! ### What the cuts leave -/

section

variable {packages members : List String} {s type : String}

/-- To cut a name at a dollar sign does not change its first letter. -/
theorem isCapitalized_untilDollar (s : String) :
    isCapitalized (untilDollar s) = isCapitalized s := by
  rw [isCapitalized, isCapitalized, untilDollar, String.toList_ofList]
  rcases s.toList with - | ⟨c, cs⟩
  · rfl
  · by_cases hc : c = '$'
    · have hdollar : Unicode.isUppercase '$' = false := by decide +kernel
      rw [hc, List.takeWhile_cons_of_neg (by simp)]
      exact hdollar.symm
    · rw [List.takeWhile_cons_of_pos (by simpa using hc)]
      rfl

theorem dollar_not_mem_untilDollar (s : String) : '$' ∉ (untilDollar s).toList := by
  rw [untilDollar, String.toList_ofList]
  intro h
  simpa using List.mem_takeWhile_imp h

theorem untilDollar_subset (s : String) : (untilDollar s).toList ⊆ s.toList := by
  rw [untilDollar, String.toList_ofList]
  exact (List.takeWhile_prefix _).subset

/-- What stands behind a dollar sign is cut off. -/
theorem untilDollar_append_of_mem (h : '$' ∈ s.toList) (t : String) :
    untilDollar (s ++ t) = untilDollar s := by
  obtain ⟨front, back, hs, hfront⟩ := List.eq_append_cons_of_mem h
  have hplain : ∀ c ∈ front, (c != '$') = true := by
    intro c hc
    rw [bne_iff_ne]
    rintro rfl
    exact hfront hc
  rw [untilDollar, untilDollar, String.toList_append, hs, List.append_assoc, List.cons_append,
    List.takeWhile_append_of_pos hplain, List.takeWhile_append_of_pos hplain]
  rfl

/-- What stands before any dollar sign is kept. -/
theorem untilDollar_append_of_not_mem (h : '$' ∉ s.toList) (t : String) :
    untilDollar (s ++ t) = s ++ untilDollar t := by
  have hplain : ∀ c ∈ s.toList, (c != '$') = true := by
    intro c hc
    rw [bne_iff_ne]
    rintro rfl
    exact h hc
  rw [untilDollar, String.toList_append, List.takeWhile_append_of_pos hplain, String.ofList_append,
    String.ofList_toList]
  rfl

/-- **A name is cut off within its first segment that holds a `$`**, or within the last one. -/
theorem untilDollar_dotted (hpackages : ∀ p ∈ packages, '$' ∉ p.toList)
    (h : '$' ∈ s.toList ∨ members = []) :
    untilDollar (dotted (packages ++ s :: members)) = dotted (packages ++ [untilDollar s]) := by
  induction packages with
  | nil =>
    rcases members with - | ⟨t, members⟩
    · rfl
    · have hs : '$' ∈ s.toList := h.resolve_right (List.cons_ne_nil _ _)
      rw [List.nil_append, dotted_cons (List.cons_ne_nil t members), String.append_assoc,
        untilDollar_append_of_mem hs]
      rfl
  | cons p packages ih =>
    obtain ⟨hp, hpackages⟩ := List.forall_mem_cons.1 hpackages
    have hdot : '$' ∉ (p ++ ".").toList := by simpa using hp
    rw [List.cons_append, dotted_cons (by simp), untilDollar_append_of_not_mem hdot, ih hpackages,
      List.cons_append, dotted_cons (by simp)]

end

namespace NamesClass

variable {literal type : String} {packages members : List String}

/-- All segments of a class name have its shape. -/
theorem isClassSegment (h : NamesClass literal packages type members) :
    ∀ s ∈ packages ++ [type], isClassSegment s.toList = true := by
  intro s hs
  refine h.wellFormed s ?_
  rw [List.mem_append, List.mem_singleton] at hs
  rw [List.mem_append, List.mem_cons]
  exact hs.imp_right .inl

/-- Where the name is cut off within a segment, that one is the last that is kept. -/
theorem segmentsOf_cut (h : NamesClass literal packages type members) {front : List String}
    {s : String} (hsubset : front ++ [s] ⊆ packages ++ [type]) :
    segmentsOf (dotted (front ++ [untilDollar s])) = front ++ [untilDollar s] := by
  obtain ⟨hfront, hs⟩ := List.append_subset.1 hsubset
  refine segmentsOf_dotted (by simp) fun t ht ↦ ?_
  rcases List.mem_append.1 ht with ht | ht
  · exact dot_not_mem_of_isClassSegment (h.isClassSegment t (hfront ht))
  · obtain rfl := List.mem_singleton.1 ht
    exact fun hdot ↦ dot_not_mem_of_isClassSegment
      (h.isClassSegment s (hs (List.mem_singleton_self s))) (untilDollar_subset s hdot)

/-- Where no package holds a `$`, the name is cut off within the type. -/
theorem segmentsOf_plain (h : NamesClass literal packages type members)
    (hplain : ∀ s ∈ packages, '$' ∉ s.toList) :
    segmentsOf (untilDollar (dotted (packages ++ [type]))) = packages ++ [untilDollar type] := by
  rw [untilDollar_dotted hplain (.inr rfl), h.segmentsOf_cut (List.Subset.refl _)]

/-- A class in packages without dollar signs is kept by a name of the right shape. -/
theorem isClassName_of_plain (h : NamesClass literal packages type members)
    (hpackages : packages ≠ []) (hplain : ∀ s ∈ packages, '$' ∉ s.toList) :
    IsClassName (untilDollar (dotted (packages ++ [type]))) := by
  have htype : isCapitalized (untilDollar type) = true := by
    rw [isCapitalized_untilDollar, h.capitalized]
  refine ⟨?_, ?_, ?_, ?_⟩ <;> rw [h.segmentsOf_plain hplain]
  · have hpos : 0 < packages.length := List.length_pos_of_ne_nil hpackages
    rw [List.length_append, List.length_singleton]
    omega
  · rw [List.forall_mem_append, List.forall_mem_singleton]
    refine ⟨fun s hs ↦ ⟨?_, hplain s hs⟩, ?_, dollar_not_mem_untilDollar type⟩
    · rintro rfl
      cases h.isClassSegment "" (List.mem_append_left _ hs)
    · intro hempty
      rw [hempty] at htype
      cases htype
  · simpa using htype
  · rw [List.dropLast_concat]
    exact h.lower

/-- A name that is cut off within a package does not end in a capitalised segment. -/
theorem not_isClassName_of_dollar (h : NamesClass literal packages type members) {s : String}
    {front back : List String} (hpackages : packages = front ++ s :: back) (hs : '$' ∈ s.toList)
    (hfront : ∀ p ∈ front, '$' ∉ p.toList) :
    ¬ IsClassName (untilDollar (dotted (packages ++ [type]))) := by
  intro hname
  have hlast := hname.last
  rw [hpackages, List.append_assoc, List.cons_append, untilDollar_dotted hfront (.inl hs),
    h.segmentsOf_cut (by simp [hpackages]), List.getLast?_concat] at hlast
  have hcapitalized := hlast _ rfl
  rw [isCapitalized_untilDollar, h.lower s (by simp [hpackages])] at hcapitalized
  cases hcapitalized

/-- **What is kept of a literal is the name of a class in a package exactly if the type stands in
packages, and none of these holds a `$`.** -/
theorem isClassName_iff (h : NamesClass literal packages type members) :
    IsClassName (untilDollar (dotted (packages ++ [type]))) ↔
      packages ≠ [] ∧ ∀ s ∈ packages, '$' ∉ s.toList := by
  refine ⟨fun hname ↦ ?_, fun ⟨hpackages, hplain⟩ ↦ h.isClassName_of_plain hpackages hplain⟩
  have hplain : ∀ s ∈ packages, '$' ∉ s.toList := by
    rcases hfind : packages.find? (·.toList.contains '$') with - | s
    · simpa using hfind
    · -- the name would be cut off within the first package that holds a `$`
      obtain ⟨hs, front, back, hpackages, hfront⟩ := List.find?_eq_some_iff_append.1 hfind
      exact absurd hname
        (h.not_isClassName_of_dollar hpackages (by simpa using hs) (by simpa using hfront))
  refine ⟨?_, hplain⟩
  rintro rfl
  have hseveral := hname.several
  rw [h.segmentsOf_plain hplain] at hseveral
  simp at hseveral

end NamesClass

/-! ### Calls that look a class up -/

/-- Whether a compilation unit passes a string literal to a call that looks a class up by its
name. -/
inductive LooksUp (ls : List Lexeme) (literal : String) : Prop
  | intro {before rest : List Lexeme} {call paren l : Lexeme}
    (hls : ls = before ++ [call, paren] ++ l :: rest)
    (hcall : call.kind = .identifier ∧ call.text ∈ reflectiveCalls)
    (hparen : paren.kind = .openParen) (hl : l.kind = .stringLiteral ∧ l.text = literal)

section

variable {before rest : List MarkedLexeme} {l : MarkedLexeme} {c : String}

/-- The lexemes behind are kept in reverse. -/
theorem literalReference?_eq_some_iff {literal : String} :
    literalReference? literal before.reverse = some (.reflective c) ↔
      (∃ pre call paren, plain before = pre ++ [call, paren] ∧
        (call.kind = .identifier ∧ call.text ∈ reflectiveCalls) ∧ paren.kind = .openParen) ∧
      className? literal = some c := by
  constructor
  · intro h
    rw [literalReference?.eq_def] at h
    split at h
    · next p call more hbefore =>
      split at h
      · next hcall =>
        obtain ⟨_, hname, ⟨⟩⟩ := Option.map_eq_some_iff.1 h
        have hplain : plain before = plain more.reverse ++ [call.toLexeme, p.toLexeme] := by
          rw [← List.reverse_reverse before, hbefore, List.reverse_cons, List.reverse_cons,
            List.append_assoc, plain_append]
          rfl
        exact ⟨⟨_, _, _, hplain, ⟨hcall.2.1, by simpa using hcall.2.2⟩, hcall.1⟩, hname⟩
      · cases h
    · cases h
  · rintro ⟨⟨pre, call, paren, hbefore, hcall, hparen⟩, hname⟩
    obtain ⟨front, ends, rfl, -, hends⟩ := List.map_eq_append_iff.1 hbefore
    obtain ⟨call, last, rfl, rfl, hlast⟩ := List.map_eq_cons_iff.1 hends
    obtain ⟨paren, none, rfl, rfl, hnone⟩ := List.map_eq_cons_iff.1 hlast
    obtain rfl := List.map_eq_nil_iff.1 hnone
    simp [literalReference?, hcall, hparen, hname]

/-- Chains make no references of this kind. -/
theorem not_refersTo_reflective {typePlace : Prop} {segments : List String} :
    ¬ RefersTo typePlace segments (.reflective c) := by
  rintro ⟨⟩

/-- A lexeme refers to a class by name just if it is a literal that is not claimed and does so. -/
theorem referenceOf?_eq_some_reflective_iff :
    referenceOf? before.reverse l rest = some (.reflective c) ↔
      l.claimed = false ∧ l.kind = .stringLiteral ∧
        literalReference? l.text before.reverse = some (.reflective c) := by
  rw [referenceOf?]
  by_cases hclaimed : l.claimed = true
  · simp [hclaimed]
  have hunclaimed : l.claimed = false := by simpa using hclaimed
  rw [if_neg hclaimed, and_iff_right hunclaimed]
  by_cases hhead : l.kind = .identifier ∧ !startsWithKind before.reverse [.dot]
  · rw [if_pos hhead]
    refine iff_of_false (fun h ↦ ?_) fun h ↦ ?_
    · exact not_refersTo_reflective (refersTo_of_chainReference? h)
    · cases hhead.1.symm.trans h.1
  · rw [if_neg hhead]
    by_cases hliteral : l.kind = .stringLiteral
    · rw [if_pos hliteral, and_iff_right hliteral]
    · simp [hliteral]

end

/-- A literal is part of no statement, and names nothing that is declared. -/
theorem not_found_claimed_of_stringLiteral {before rest : List Lexeme} {l : Lexeme}
    (hl : l.kind = .stringLiteral) : ¬ Found (before ++ l :: rest) (.claimed before.length) := by
  intro h
  rcases h.claimed_cases with hcovered | ⟨hname, -⟩
  · simpa [hl, statementKinds] using hcovered.kind_mem
  · cases hl.symm.trans hname

/-- **The references in literals** are the classes that literals name in calls that look them up. -/
theorem mem_reflective_iff {ls : List Lexeme} {o : Outline} (h : outline ls = .ok o) {c : String} :
    .reflective c ∈ referencesFrom [] (o.mark ls) ↔
      ∃ literal, LooksUp ls literal ∧ className? literal = some c := by
  simp only [mem_referencesFrom_iff, referenceOf?_eq_some_reflective_iff,
    literalReference?_eq_some_iff]
  refine (Outline.exists_mark_iff (P := fun before l claimed _ ↦ claimed = false ∧
    l.kind = .stringLiteral ∧ (∃ pre call paren, before = pre ++ [call, paren] ∧
      (call.kind = .identifier ∧ call.text ∈ reflectiveCalls) ∧ paren.kind = .openParen) ∧
    className? l.text = some c)).trans ?_
  simp only [contains_claimed_eq_false_iff h]
  constructor
  · rintro ⟨before, l, rest, hls, -, hkind, ⟨pre, call, paren, rfl, hcall, hparen⟩, hname⟩
    exact ⟨l.text, .intro hls hcall hparen ⟨hkind, rfl⟩, hname⟩
  · rintro ⟨literal, ⟨rfl, hcall, hparen, hkind, rfl⟩, hname⟩
    exact ⟨_, _, _, rfl, not_found_claimed_of_stringLiteral hkind, hkind,
      ⟨_, _, _, rfl, hcall, hparen⟩, hname⟩

/-- **The classes that a source refers to by string literals**, and which of them are named as a
class in a package. Every literal counts that a lookup is given and that names a class. What is kept
of it is such a name, unless the class stands in no package or a package holds a `$`. -/
theorem mem_reflectiveReferences_iff {source : String} {facts : Facts}
    (h : scan source = .ok facts) (name : String) :
    name ∈ facts.reflectiveReferences ↔
      ∃ literal packages type members, LooksUp (tokens source) literal ∧
        NamesClass literal packages type members ∧
        name = untilDollar (dotted (packages ++ [type])) ∧
        (IsClassName name ↔ packages ≠ [] ∧ ∀ s ∈ packages, '$' ∉ s.toList) := by
  obtain ⟨o, houtline, rfl⟩ := exists_outline_of_scan h
  rw [Outline.mem_reflectiveReferences_facts, mem_reflective_iff houtline]
  simp only [className?_eq_some_iff]
  constructor
  · rintro ⟨literal, hlookup, packages, type, members, hclass, rfl⟩
    exact ⟨literal, packages, type, members, hlookup, hclass, rfl, hclass.isClassName_iff⟩
  · rintro ⟨literal, packages, type, members, hlookup, hclass, rfl, -⟩
    exact ⟨literal, hlookup, packages, type, members, hclass, rfl⟩

/-- A source that looks up a nested class, and a class in a package that begins with a `$`. -/
def lookingUp : String :=
  "class A \x7b \x7b f.forName(\"com.acme.Api$Part\"); f.forName(\"com.$gen.Api\"); \x7d \x7d"

theorem reflectiveReferences_lookingUp : ∃ facts, scan lookingUp = .ok facts ∧
    facts.reflectiveReferences.toList = ["com.", "com.acme.Api"] :=
  exists_eq_ok_of_map (fun facts : Facts ↦ facts.reflectiveReferences.toList) (by decide +kernel)

theorem not_isClassName_com : ¬ IsClassName "com." := by
  intro h
  have hplain : ∀ s ∈ segmentsOf "com.", s ≠ "" ∧ '$' ∉ s.toList := h.plain
  revert hplain
  decide +kernel

/-- One of the two literals is kept as the name of a class in a package, and the other one is cut
off within its packages. -/
theorem mem_reflectiveReferences_iff_of_lookingUp :
    ∃ facts, scan lookingUp = .ok facts ∧
      facts.reflectiveReferences.toList = ["com.", "com.acme.Api"] ∧
      IsClassName "com.acme.Api" ∧ ∃ literal packages type members,
        LooksUp (tokens lookingUp) literal ∧ NamesClass literal packages type members ∧
          "com." = untilDollar (dotted (packages ++ [type])) ∧
          ¬ (packages ≠ [] ∧ ∀ s ∈ packages, '$' ∉ s.toList) := by
  obtain ⟨facts, h, hnames⟩ := reflectiveReferences_lookingUp
  have hapi : IsClassName "com.acme.Api" :=
    ⟨by decide +kernel, by decide +kernel, by decide +kernel, by decide +kernel⟩
  have hmem : "com." ∈ facts.reflectiveReferences := by
    rw [SortedSet.mem_iff, hnames]
    exact List.mem_cons_self
  obtain ⟨literal, packages, type, members, hlookup, hclass, hname, hiff⟩ :=
    (mem_reflectiveReferences_iff h "com.").1 hmem
  exact ⟨facts, h, hnames, hapi, literal, packages, type, members, hlookup, hclass, hname,
    fun hplain ↦ not_isClassName_com (hiff.2 hplain)⟩

/-- **What is kept of a literal need not be the name of a class in a package.** -/
theorem not_forall_isClassName : ¬ ∀ source facts, scan source = .ok facts →
    ∀ name ∈ facts.reflectiveReferences, IsClassName name := by
  intro hall
  obtain ⟨facts, h, hnames⟩ := reflectiveReferences_lookingUp
  refine not_isClassName_com (hall lookingUp facts h "com." ?_)
  rw [SortedSet.mem_iff, hnames]
  exact List.mem_cons_self

end JavaDeps.Java
