import JavaDeps.Proofs.Workspace.Commutation
import JavaDeps.Resolve.Unit

/-!
# Indices that answer alike resolve alike

A unit is resolved by questions to the index, so indices that answer alike give the unit the same
resolution (`resolveUnit_same`). **Only the directories listed in an ambiguity may be spelled
otherwise**; labels, symbols and all lists are equal. Labels are asked for the spelling that the
index keeps, so the scheme of labels has to give one label for the spellings that the two indices
keep of one directory.
-/

namespace JavaDeps.Resolve

open Workspace (Index Lookup ReferencedSymbols SameConflict SamePaths)

/-! ### The same up to spelling -/

/-- Whether two ambiguities are the same, directories compared as paths: they differ in the spelling
of directories that declare a symbol, if in anything. -/
inductive Ambiguity.Same : Ambiguity → Ambiguity → Prop
  | refl (a : Ambiguity) : Same a a
  | spelling {symbol : String} {ps qs : List Path} (h : SamePaths ps qs) :
    Same ⟨symbol, .localDeclaration ps⟩ ⟨symbol, .localDeclaration qs⟩

/-- Whether two outcomes are the same, directories of ambiguities compared as paths. Labels are
compared as they are. -/
inductive Outcome.Same : Outcome → Outcome → Prop
  | refl (o : Outcome) : Same o o
  | ambiguous {a b : Ambiguity} (h : a.Same b) : Same (.ambiguous a) (.ambiguous b)

/-- Whether two resolutions of a unit are the same, directories of ambiguities compared as paths. -/
structure UnitResolution.Same (a b : UnitResolution) : Prop where
  directory : a.directory = b.directory
  kind : a.kind = b.kind
  label : a.label = b.label
  deps : a.deps = b.deps
  runtimeDeps : a.runtimeDeps = b.runtimeDeps
  unresolved : a.report.unresolved = b.report.unresolved
  ambiguities : List.Forall₂ Ambiguity.Same a.report.ambiguities b.report.ambiguities

theorem Ambiguity.Same.symbol_eq {a b : Ambiguity} (h : a.Same b) : a.symbol = b.symbol := by
  cases h <;> rfl

theorem Outcome.Same.eq_unresolved_iff {o o' : Outcome} (h : o.Same o') :
    o = .unresolved ↔ o' = .unresolved := by
  cases h <;> simp

/-- Outcomes of the same symbols, one for one, which are the same up to the spelling of
directories. -/
def SameOutcomes : List (String × Outcome) → List (String × Outcome) → Prop :=
  List.Forall₂ fun a b ↦ a.1 = b.1 ∧ a.2.Same b.2

theorem SameOutcomes.map_fst_eq {l l' : List (String × Outcome)} (h : SameOutcomes l l') :
    l.map (·.1) = l'.map (·.1) := by
  induction h with
  | nil => rfl
  | cons hfirst _ ih => rw [List.map_cons, List.map_cons, hfirst.1, ih]

/-- The same symbols with outcomes that are the same one by one. -/
theorem sameOutcomes_map {α : Type} {l : List α} {symbol : α → String} {f g : α → Outcome}
    (h : ∀ a, (f a).Same (g a)) :
    SameOutcomes (l.map fun a ↦ (symbol a, f a)) (l.map fun a ↦ (symbol a, g a)) := by
  rw [SameOutcomes, List.forall₂_map_left_iff, List.forall₂_map_right_iff, List.forall₂_same]
  exact fun a _ ↦ ⟨rfl, h a⟩

/-- Whether two resolvers ask alike: their indices answer alike, and all else is the same. -/
structure Resolver.Alike (r r' : Resolver) : Prop where
  index : r.index.Alike r'.index
  classes : r.classes = r'.classes
  options : r.options = r'.options
  labels : r.labels = r'.labels
  label : ∀ symbol p q, r.index.lookup symbol = .found p → r'.index.lookup symbol = .found q →
    r.labels p = r.labels q

namespace Resolver

variable {r r' : Resolver}

/-! ### Symbols -/

/-- **A lookup in the workspace comes to the same**, but for the spelling of directories in
conflict. -/
theorem lookupWorkspace_same (h : r.Alike r') (d : Path) (symbol : String) :
    (r.lookupWorkspace d symbol).Same (r'.lookupWorkspace d symbol) := by
  have hlookup := h.index.lookup symbol
  have hlabel := h.label symbol
  rw [lookupWorkspace, lookupWorkspace, ← h.labels]
  generalize r.index.lookup symbol = l at hlookup hlabel ⊢
  generalize r'.index.lookup symbol = l' at hlookup hlabel ⊢
  cases hlookup with
  | @found p q hsame =>
    have howner : p.same d = q.same d := Workspace.same_trans hsame
    simp only [howner, hlabel p q rfl rfl]
    exact .refl _
  | ambiguous hsame => exact .ambiguous (.spelling hsame)
  | missing => exact .refl _

theorem lookupClasses_eq (h : r.Alike r') (usage : Usage) (symbol : String) :
    r.lookupClasses usage symbol = r'.lookupClasses usage symbol := by
  rw [lookupClasses, lookupClasses, h.classes, h.options]

/-- A symbol has the same outcome in the indices of resolvers that are alike. -/
theorem lookupIndices_same (h : r.Alike r') (d : Path) (usage : Usage) (symbol : String) :
    (r.lookupIndices d usage symbol).Same (r'.lookupIndices d usage symbol) := by
  have hsame := lookupWorkspace_same h d symbol
  rw [lookupIndices, lookupIndices, lookupClasses_eq h]
  generalize r.lookupWorkspace d symbol = o at hsame ⊢
  generalize r'.lookupWorkspace d symbol = o' at hsame ⊢
  cases hsame with
  | refl o => exact .refl _
  | ambiguous hsame => exact .ambiguous hsame

/-- A symbol is resolved alike. -/
theorem resolveSymbol_same (h : r.Alike r') (d : Path) (usage : Usage) (symbol : String) :
    (r.resolveSymbol d usage symbol).Same (r'.resolveSymbol d usage symbol) := by
  have hsame := lookupIndices_same h d usage symbol
  rw [resolveSymbol, resolveSymbol, h.options]
  generalize r.lookupIndices d usage symbol = o at hsame ⊢
  generalize r'.lookupIndices d usage symbol = o' at hsame ⊢
  cases hsame with
  | refl o => exact .refl _
  | ambiguous hsame => exact .ambiguous hsame

/-! ### Simple names -/

/-- The first outcome that settles a name is the same. -/
theorem firstResolved_same {l l' : List Outcome} (h : List.Forall₂ Outcome.Same l l') :
    (firstResolved l).Same (firstResolved l') := by
  induction h with
  | nil => exact .refl _
  | @cons o o' l l' hfirst _ ih =>
    cases hfirst with
    | refl =>
      cases o with
      | unresolved => exact ih
      | _ => exact .refl _
    | ambiguous hsame => exact .ambiguous hsame

/-- A name is resolved alike in the packages of its unit. -/
theorem resolveInOwn_same (h : r.Alike r') (d : Path) (symbols : ReferencedSymbols)
    (name : String) :
    (r.resolveInOwn d symbols name).Same (r'.resolveInOwn d symbols name) := by
  refine firstResolved_same ?_
  rw [List.forall₂_map_left_iff, List.forall₂_map_right_iff, List.forall₂_same]
  exact fun package _ ↦ lookupWorkspace_same h d _

/-- The packages of wildcard imports that know a name are the same. -/
theorem wildcardHits_same (h : r.Alike r') (d : Path) (symbols : ReferencedSymbols)
    (name : String) :
    SameOutcomes (r.wildcardHits d symbols name) (r'.wildcardHits d symbols name) := by
  refine List.rel_filter (fun a b hab ↦ ?_) ?_
  · simp only [bne_iff_ne, ne_eq, hab.2.eq_unresolved_iff]
  · exact sameOutcomes_map fun package ↦ lookupIndices_same h d _ _

theorem platformImported_eq (h : r.Alike r') (d : Path) (symbols : ReferencedSymbols)
    (name : String) : r.platformImported d symbols name = r'.platformImported d symbols name := by
  have hunresolved : ∀ candidate, (r.lookupIndices d .direct candidate == .unresolved) =
      (r'.lookupIndices d .direct candidate == .unresolved) := fun candidate ↦ by
    rw [Bool.eq_iff_iff, beq_iff_eq, beq_iff_eq,
      (lookupIndices_same h d .direct candidate).eq_unresolved_iff]
  simp only [platformImported, h.options, hunresolved]

/-- **A simple name is resolved alike.** -/
theorem resolveSimpleName_same (h : r.Alike r') (d : Path) (symbols : ReferencedSymbols)
    (name : String) :
    (r.resolveSimpleName d symbols name).Same (r'.resolveSimpleName d symbols name) := by
  have hown := resolveInOwn_same h d symbols name
  have hhits := wildcardHits_same h d symbols name
  rw [resolveSimpleName, resolveSimpleName, platformImported_eq h]
  generalize r.resolveInOwn d symbols name = o at hown ⊢
  generalize r'.resolveInOwn d symbols name = o' at hown ⊢
  generalize r.wildcardHits d symbols name = hits at hhits ⊢
  generalize r'.wildcardHits d symbols name = hits' at hhits ⊢
  cases hown with
  | ambiguous hsame => exact .ambiguous hsame
  | refl =>
    cases o with
    | unresolved =>
      have hnames := hhits.map_fst_eq
      cases hhits with
      | nil => exact .refl _
      | cons hfirst hrest =>
        cases hrest with
        | nil => exact hfirst.2
        | cons _ _ => simpa only [hnames] using .refl _
    | _ => exact .refl _

/-! ### Units -/

/-- All that a unit refers to is resolved alike, in the same order. -/
theorem outcomes_same (h : r.Alike r') (d : Path) (symbols : ReferencedSymbols) :
    SameOutcomes (r.outcomes d symbols) (r'.outcomes d symbols) := by
  rw [outcomes, outcomes, h.options]
  refine List.rel_append (List.rel_append ?_ ?_) ?_
  · exact sameOutcomes_map fun symbol ↦ resolveSymbol_same h d _ symbol
  · split
    · exact sameOutcomes_map fun symbol ↦ resolveSymbol_same h d _ symbol
    · exact .nil
  · exact sameOutcomes_map fun name ↦ resolveSimpleName_same h d symbols name

/-- What is read off outcomes without their ambiguities is equal. -/
theorem filterMap_eq_of_sameOutcomes {α : Type} {f : String × Outcome → Option α}
    (hf : ∀ symbol a b, f (symbol, .ambiguous a) = f (symbol, .ambiguous b))
    {l l' : List (String × Outcome)} (h : SameOutcomes l l') : l.filterMap f = l'.filterMap f := by
  induction h with
  | nil => rfl
  | @cons a b l l' hfirst _ ih =>
    have hfab : f a = f b := by
      obtain ⟨symbol, o⟩ := a
      obtain ⟨symbol', o'⟩ := b
      obtain ⟨rfl, hsame⟩ := hfirst
      cases hsame with
      | refl => rfl
      | ambiguous _ => exact hf _ _ _
    rw [List.filterMap_cons, List.filterMap_cons, hfab, ih]

/-- The ambiguities among outcomes are the same. -/
theorem filterMap_ambiguity?_same {l l' : List (String × Outcome)} (h : SameOutcomes l l') :
    List.Forall₂ Ambiguity.Same (l.filterMap ambiguity?) (l'.filterMap ambiguity?) := by
  refine List.rel_filterMap (fun a b hab ↦ ?_) h
  obtain ⟨symbol, o⟩ := a
  obtain ⟨symbol', o'⟩ := b
  obtain ⟨-, hsame⟩ := hab
  cases hsame with
  | ambiguous hsame => exact .some hsame
  | refl =>
    cases o with
    | ambiguous a => exact .some (.refl a)
    | _ => exact .none

theorem map_symbol_eq {l l' : List Ambiguity} (h : List.Forall₂ Ambiguity.Same l l') :
    l.map (·.symbol) = l'.map (·.symbol) := by
  induction h with
  | nil => rfl
  | cons hfirst _ ih => rw [List.map_cons, List.map_cons, hfirst.symbol_eq, ih]

/-- Conflicts that are the same, added to ambiguities that are the same, leave these so. -/
theorem addConflicts_same {known known' : List Ambiguity}
    {conflicts conflicts' : List (String × List Path)}
    (hknown : List.Forall₂ Ambiguity.Same known known')
    (hconflicts : List.Forall₂ SameConflict conflicts conflicts') :
    List.Forall₂ Ambiguity.Same (addConflicts known conflicts)
      (addConflicts known' conflicts') := by
  refine List.rel_foldl (fun known known' hknown a b hab ↦ ?_) hknown hconflicts
  have hall : known.all (·.symbol != a.1) = known'.all (·.symbol != b.1) := by
    have hsymbols := congrArg (List.all · (· != a.1)) (map_symbol_eq hknown)
    rw [List.all_map, List.all_map] at hsymbols
    exact hab.1 ▸ hsymbols
  dsimp only
  rw [hall]
  split
  · refine List.rel_append hknown (.cons ?_ .nil)
    rw [hab.1]
    exact .spelling hab.2
  · exact hknown

/-- Sorting takes related elements to the same places, if the order does not tell them apart. -/
theorem forall₂_mergeSort {α : Type} {R : α → α → Prop} {le : α → α → Bool}
    (hle : ∀ {a a' b b'}, R a a' → R b b' → le a b = le a' b') {l l' : List α}
    (h : List.Forall₂ R l l') : List.Forall₂ R (l.mergeSort le) (l'.mergeSort le) := by
  obtain ⟨hlength, hzip⟩ := List.forall₂_iff_zip.1 h
  -- both are the two sides of one sorted list of pairs
  have hleft : ((l.zip l').mergeSort fun p q ↦ le p.1 q.1).map Prod.fst = l.mergeSort le := by
    rw [List.map_mergeSort (s := le) fun _ _ _ _ ↦ rfl, List.map_fst_zip hlength.le]
  have hright : ((l.zip l').mergeSort fun p q ↦ le p.1 q.1).map Prod.snd = l'.mergeSort le := by
    rw [List.map_mergeSort (s := le) fun p hp q hq ↦ hle (hzip hp) (hzip hq),
      List.map_snd_zip hlength.ge]
  rw [← hleft, ← hright, List.forall₂_map_left_iff, List.forall₂_map_right_iff, List.forall₂_same]
  exact fun p hp ↦ hzip (List.mem_mergeSort.1 hp)

/-- **Resolvers that ask alike resolve a unit alike.** -/
theorem resolveUnit_same (h : r.Alike r') (d : Path) (kind : UnitKind) :
    (r.resolveUnit d kind).Same (r'.resolveUnit d kind) := by
  have hreferenced := h.index.referenced d
  have houtcomes := outcomes_same h d ((r'.index.referenced? d).getD {})
  have hfound := filterMap_eq_of_sameOutcomes (f := foundLabel?) (fun _ _ _ ↦ rfl) houtcomes
  have hunresolved :=
    filterMap_eq_of_sameOutcomes (f := unresolvedSymbol?) (fun _ _ _ ↦ rfl) houtcomes
  constructor
  · rfl
  · rfl
  · exact congrFun h.labels d
  · simp only [resolveUnit, hreferenced, hfound]
  · simp only [resolveUnit, hreferenced, hfound]
  · simp only [resolveUnit, hreferenced, hunresolved]
  · simp only [resolveUnit, hreferenced]
    refine forall₂_mergeSort (fun ha hb ↦ by rw [ha.symbol_eq, hb.symbol_eq]) ?_
    exact addConflicts_same (filterMap_ambiguity?_same houtcomes) (h.index.conflicts d)

end Resolver

end JavaDeps.Resolve
