import JavaDeps.Proofs.Resolve.Settlement

/-!
# How simple names are settled

`Resolver.resolveSimpleName` works on lists: it takes the first of some outcomes, and counts hits.
The rules of `SettlesName` speak of packages. The two meet in two facts about lists: the first
outcome of a list that is ordered by some relation is that of its least element
(`firstResolved_map_eq_iff`), and the hits are the packages that know the name (`wildcardHits_eq`),
in increasing order.
-/

namespace JavaDeps.Resolve

open Workspace (Event IsReferenced MainPackage OwnPackage ReferencedSymbols WildcardPackage)
open Java (qualify)

namespace Resolver

/-! ### The first that resolves -/

theorem firstResolved_eq_unresolved_iff {l : List Outcome} :
    firstResolved l = .unresolved ↔ ∀ o ∈ l, o = .unresolved := by
  induction l with
  | nil => simp [firstResolved]
  | cons o rest ih => cases o <;> simp [firstResolved, ih]

theorem firstResolved_cons_of_ne {o : Outcome} {rest : List Outcome} (h : o ≠ .unresolved) :
    firstResolved (o :: rest) = o := by
  cases o <;> simp_all [firstResolved]

/-- **A search in order ends with the first that settles it**: what comes before does not. -/
theorem firstResolved_map_eq_iff {α : Type} {R : α → α → Prop} {f : α → Outcome} {l : List α}
    {o : Outcome} (hl : l.Pairwise R) (hasymm : ∀ a b, R a b → ¬ R b a) (ho : o ≠ .unresolved) :
    firstResolved (l.map f) = o ↔
      ∃ a ∈ l, f a = o ∧ ∀ b ∈ l, f b ≠ .unresolved → b = a ∨ R a b := by
  induction l with
  | nil => simpa [firstResolved] using ho.symm
  | cons a rest ih =>
    obtain ⟨hfirst, hrest⟩ := List.pairwise_cons.1 hl
    by_cases ha : f a = .unresolved
    · have hskip : firstResolved ((a :: rest).map f) = firstResolved (rest.map f) := by
        rw [List.map_cons, ha, firstResolved]
      rw [hskip, ih hrest]
      constructor
      · rintro ⟨b, hb, hfb, hleast⟩
        refine ⟨b, List.mem_cons_of_mem _ hb, hfb, fun c hc hfc ↦ ?_⟩
        rcases List.mem_cons.1 hc with rfl | hc
        · exact absurd ha hfc
        · exact hleast c hc hfc
      · rintro ⟨b, hb, hfb, hleast⟩
        rcases List.mem_cons.1 hb with rfl | hb
        · exact absurd (hfb.symm.trans ha) ho
        · exact ⟨b, hb, hfb, fun c hc ↦ hleast c (List.mem_cons_of_mem _ hc)⟩
    · rw [List.map_cons, firstResolved_cons_of_ne ha]
      constructor
      · rintro rfl
        refine ⟨a, List.mem_cons_self, rfl, fun b hb _ ↦ ?_⟩
        exact (List.mem_cons.1 hb).imp_right (hfirst b)
      · rintro ⟨b, hb, hfb, hleast⟩
        rcases List.mem_cons.1 hb with rfl | hb
        · exact hfb
        · -- `a` and `b` would each come before the other
          rcases hleast a List.mem_cons_self ha with rfl | hba
          · exact hfb
          · exact absurd hba (hasymm _ _ (hfirst b hb))

/-! ### The packages of the directory -/

variable {r : Resolver} {history : List Event} {directory : Path} {symbols : ReferencedSymbols}

theorem askedBefore_asymm (main : String) (p q : String) (h : AskedBefore main p q) :
    ¬ AskedBefore main q p := by
  rintro ⟨hp, hqp⟩
  obtain ⟨hq, hpq⟩ := h
  have hlt : compare p q = .lt := hpq.resolve_left hp
  have hgt : compare q p = .lt := hqp.resolve_left hq
  exact absurd hgt (Std.OrientedCmp.not_lt_of_lt hlt)

/-- The packages of a unit are asked in a fixed order: that of the unit first, and then by name. -/
theorem ownPackages_pairwise (symbols : ReferencedSymbols) :
    (ownPackages symbols).Pairwise (AskedBefore symbols.package) := by
  refine List.pairwise_cons.2 ⟨fun p hp ↦ ?_, ?_⟩
  · exact ⟨by simpa using (List.mem_filter.1 hp).2, .inl rfl⟩
  · refine (symbols.packages.increasing.filter _).imp_of_mem fun {p q} _ hq hlt ↦ ?_
    exact ⟨by simpa using (List.mem_filter.1 hq).2, .inr hlt⟩

/-- The packages that are asked are those of the files of the unit. -/
theorem mem_ownPackages (h : IsReferenced history directory symbols) {package : String} :
    package ∈ ownPackages symbols ↔ OwnPackage history directory package := by
  rw [← h.packages, ownPackages, List.mem_cons, List.mem_filter, bne_iff_ne, SortedSet.mem_iff]
  constructor
  · rintro (rfl | ⟨hmem, -⟩)
    · exact (h.packages _).2 h.package.ownPackage
    · exact hmem
  · intro hmem
    by_cases hmain : package = symbols.package
    · exact .inl hmain
    · exact .inr ⟨hmem, hmain⟩

/-- A name is not resolved in the own packages just if none of them knows it. -/
theorem resolveInOwn_eq_unresolved_iff (h : IsReferenced history directory symbols)
    {name : String} :
    r.resolveInOwn directory symbols name = .unresolved ↔ NoOwn r history directory name := by
  rw [resolveInOwn, firstResolved_eq_unresolved_iff, NoOwn]
  simp only [List.mem_map, forall_exists_index, and_imp, forall_apply_eq_imp_iff₂,
    mem_ownPackages h, lookupWorkspace_eq_unresolved_iff]

/-- A name is resolved as by the first own package that knows it. -/
theorem resolveInOwn_eq_iff (h : IsReferenced history directory symbols) {name : String}
    {o : Outcome} (ho : o ≠ .unresolved) :
    r.resolveInOwn directory symbols name = o ↔ ∃ package,
      FirstOwn r history directory name package ∧
        InWorkspace r directory (qualify package name) o := by
  rw [resolveInOwn,
    firstResolved_map_eq_iff (ownPackages_pairwise symbols) (askedBefore_asymm _) ho]
  simp only [mem_ownPackages h, ne_eq, lookupWorkspace_eq_unresolved_iff]
  constructor
  · rintro ⟨package, hown, rfl, hleast⟩
    have hknown := mt lookupWorkspace_eq_unresolved_iff.2 ho
    refine ⟨package, ⟨hown, hknown, fun main other hmain hother hlookup ↦ ?_⟩,
      inWorkspace_iff.2 ⟨rfl, hknown⟩⟩
    rw [hmain.unique h.package]
    exact hleast other hother hlookup
  · rintro ⟨package, hfirst, hin⟩
    refine ⟨package, hfirst.isOwn, (inWorkspace_iff.1 hin).1, fun other hother hlookup ↦ ?_⟩
    exact hfirst.first _ other h.package hother hlookup

/-! ### Packages imported whole -/

/-- The packages imported whole in which some index knows the name, in order. -/
def knownWildcards (r : Resolver) (directory : Path) (symbols : ReferencedSymbols) (name : String) :
    List String :=
  symbols.wildcardPackages.toList.filter fun package ↦
    r.lookupIndices directory .direct (qualify package name) != .unresolved

/-- The hits of wildcard imports are their packages that know the name, each with what the indices
say. -/
theorem wildcardHits_eq (r : Resolver) (directory : Path) (symbols : ReferencedSymbols)
    (name : String) :
    r.wildcardHits directory symbols name = (r.knownWildcards directory symbols name).map fun p ↦
      (qualify p name, r.lookupIndices directory .direct (qualify p name)) := by
  rw [wildcardHits, knownWildcards, List.filter_map]
  rfl

theorem mem_knownWildcards (h : IsReferenced history directory symbols) {name package : String} :
    package ∈ r.knownWildcards directory symbols name ↔
      WildcardPackage history directory package ∧ ¬ Unknown r (qualify package name) := by
  rw [knownWildcards, List.mem_filter, bne_iff_ne, ne_eq, lookupIndices_eq_unresolved_iff,
    ← SortedSet.mem_iff, h.wildcardPackages]

theorem knownWildcards_increasing (name : String) :
    (r.knownWildcards directory symbols name).Pairwise (fun p q ↦ compare p q = .lt) :=
  symbols.wildcardPackages.increasing.filter _

/-- The packages in which an index knows the name are known by their members and their order. -/
theorem eq_knownWildcards (h : IsReferenced history directory symbols) {name : String}
    {packages : List String} (hincreasing : packages.Pairwise (fun p q ↦ compare p q = .lt))
    (hmem : ∀ p, p ∈ packages ↔
      WildcardPackage history directory p ∧ ¬ Unknown r (qualify p name)) :
    packages = r.knownWildcards directory symbols name :=
  eq_of_increasing hincreasing (knownWildcards_increasing name) fun p ↦
    (hmem p).trans (mem_knownWildcards h).symm

theorem knownWildcards_eq_nil_iff (h : IsReferenced history directory symbols) {name : String} :
    r.knownWildcards directory symbols name = [] ↔
      ∀ p, WildcardPackage history directory p → Unknown r (qualify p name) := by
  rw [List.eq_nil_iff_forall_not_mem]
  simp only [mem_knownWildcards h, not_and, not_not]

/-- One wildcard import alone counts just if it is the only candidate. -/
theorem knownWildcards_eq_singleton_iff (h : IsReferenced history directory symbols)
    {name package : String} (hno : NoOwn r history directory name) :
    r.knownWildcards directory symbols name = [package] ↔
      SoleWildcard r history directory name package := by
  constructor
  · intro hsole
    have hmem : ∀ p, p ∈ r.knownWildcards directory symbols name ↔
        WildcardPackage history directory p ∧ ¬ Unknown r (qualify p name) :=
      fun p ↦ mem_knownWildcards h
    simp only [hsole, List.mem_singleton] at hmem
    obtain ⟨hwildcard, hknown⟩ := (hmem package).1 rfl
    exact ⟨hno, hwildcard, hknown, fun other ho hk ↦ (hmem other).2 ⟨ho, hk⟩⟩
  · intro hsole
    refine (eq_knownWildcards h (List.pairwise_singleton _ _) fun p ↦ ?_).symm
    rw [List.mem_singleton]
    constructor
    · rintro rfl
      exact ⟨hsole.isWildcard, hsole.known⟩
    · exact fun hp ↦ hsole.sole p hp.1 hp.2

/-- With no index knowing the name in any package imported whole, the platform decides. -/
theorem platformImported_iff (h : IsReferenced history directory symbols) {name : String}
    (hno : ∀ p, WildcardPackage history directory p → Unknown r (qualify p name)) :
    r.platformImported directory symbols name = true ↔
      ∃ p, WildcardPackage history directory p ∧ r.options.platform.providesPackage p = true := by
  simp only [platformImported, List.any_eq_true, Bool.and_eq_true, beq_iff_eq, ← SortedSet.mem_iff,
    h.wildcardPackages, lookupIndices_eq_unresolved_iff]
  exact exists_congr fun p ↦ and_congr_right fun hp ↦ and_iff_left (hno p hp)

/-! ### The outcome -/

/-- A name that an own package settles is resolved as it is settled there. -/
theorem resolveSimpleName_of_own {name : String}
    (hown : r.resolveInOwn directory symbols name ≠ .unresolved) :
    r.resolveSimpleName directory symbols name = r.resolveInOwn directory symbols name := by
  rw [resolveSimpleName]
  split
  · next h => exact absurd h hown
  · rfl

theorem not_firstOwn_of_noOwn {name : String} (hno : NoOwn r history directory name)
    (package : String) : ¬ FirstOwn r history directory name package :=
  fun hfirst ↦ hfirst.known (hno package hfirst.isOwn)

section Wildcards

variable {name : String} {o : Outcome} (h : IsReferenced history directory symbols)
  (hno : NoOwn r history directory name)

include h hno

/-- With no index knowing the name, the platform decides. -/
theorem settlesName_iff_of_knownWildcards_nil
    (hknown : r.knownWildcards directory symbols name = []) :
    SettlesName r history directory name o ↔
      (if isJavaLang name || r.platformImported directory symbols name then .builtin
        else .unresolved) = o := by
  have hunknown := (knownWildcards_eq_nil_iff h).1 hknown
  have hcondition : (isJavaLang name || r.platformImported directory symbols name) = true ↔
      isJavaLang name = true ∨ ∃ p, WildcardPackage history directory p ∧
        r.options.platform.providesPackage p = true := by
    rw [Bool.or_eq_true, platformImported_iff h hunknown]
  constructor
  · intro hsettles
    cases hsettles with
    | own hfirst _ => exact absurd hfirst (not_firstOwn_of_noOwn hno _)
    | wildcard hsole _ => exact absurd (hunknown _ hsole.isWildcard) hsole.known
    | wildcards _ _ hseveral _ hmem =>
      obtain ⟨p, hp⟩ := List.exists_mem_of_length_pos (Nat.lt_trans Nat.zero_lt_one hseveral)
      exact absurd (hunknown p ((hmem p).1 hp).1) ((hmem p).1 hp).2
    | builtin _ _ hplatform => rw [if_pos (hcondition.2 hplatform)]
    | unresolved _ _ hplatform => rw [if_neg (mt hcondition.1 hplatform)]
  · rintro rfl
    split
    · next hplatform => exact .builtin hno hunknown (hcondition.1 hplatform)
    · next hplatform => exact .unresolved hno hunknown (mt hcondition.2 hplatform)

/-- With one package in which an index knows the name, that package decides. -/
theorem settlesName_iff_of_knownWildcards_singleton {package : String}
    (hknown : r.knownWildcards directory symbols name = [package]) :
    SettlesName r history directory name o ↔
      r.lookupIndices directory .direct (qualify package name) = o := by
  have hsole := (knownWildcards_eq_singleton_iff h hno).1 hknown
  constructor
  · intro hsettles
    cases hsettles with
    | own hfirst _ => exact absurd hfirst (not_firstOwn_of_noOwn hno _)
    | wildcard hother hindexed =>
      rw [hother.sole package hsole.isWildcard hsole.known]
      exact (indexed_iff.1 hindexed).1
    | wildcards _ _ hseveral hincreasing hmem =>
      rw [eq_knownWildcards h hincreasing hmem, hknown] at hseveral
      exact absurd hseveral (Nat.lt_irrefl 1)
    | builtin _ hunknown _ => exact absurd (hunknown package hsole.isWildcard) hsole.known
    | unresolved _ hunknown _ => exact absurd (hunknown package hsole.isWildcard) hsole.known
  · exact fun hindices ↦ .wildcard hsole (indexed_iff.2 ⟨hindices, hsole.known⟩)

/-- Several packages in which an index knows the name decide nothing. -/
theorem settlesName_iff_of_knownWildcards_several
    (hseveral : 1 < (r.knownWildcards directory symbols name).length) :
    SettlesName r history directory name o ↔
      .ambiguous ⟨qualify symbols.package name, .wildcardImport
        ((r.knownWildcards directory symbols name).map (qualify · name))⟩ = o := by
  obtain ⟨p, hp⟩ := List.exists_mem_of_length_pos (Nat.lt_trans Nat.zero_lt_one hseveral)
  obtain ⟨hwildcard, hknown⟩ := (mem_knownWildcards h).1 hp
  constructor
  · intro hsettles
    cases hsettles with
    | own hfirst _ => exact absurd hfirst (not_firstOwn_of_noOwn hno _)
    | wildcard hsole _ =>
      rw [(knownWildcards_eq_singleton_iff h hno).2 hsole] at hseveral
      exact absurd hseveral (Nat.lt_irrefl 1)
    | wildcards _ hmain _ hincreasing hmem =>
      rw [eq_knownWildcards h hincreasing hmem, hmain.unique h.package]
    | builtin _ hunknown _ => exact absurd (hunknown p hwildcard) hknown
    | unresolved _ hunknown _ => exact absurd (hunknown p hwildcard) hknown
  · rintro rfl
    exact .wildcards hno h.package hseveral (knownWildcards_increasing name) fun _ ↦
      mem_knownWildcards h

/-- A simple name that no package of the directory has is settled by the packages imported whole. -/
theorem settlesName_iff_of_noOwn :
    SettlesName r history directory name o ↔ r.resolveSimpleName directory symbols name = o := by
  rw [resolveSimpleName, (resolveInOwn_eq_unresolved_iff h).2 hno, wildcardHits_eq]
  rcases hknown : r.knownWildcards directory symbols name with - | ⟨p, - | ⟨q, rest⟩⟩
  · exact settlesName_iff_of_knownWildcards_nil h hno hknown
  · exact settlesName_iff_of_knownWildcards_singleton h hno hknown
  · have hseveral : 1 < (r.knownWildcards directory symbols name).length := by
      rw [hknown, List.length_cons, List.length_cons]
      omega
    -- the hits carry the packages as symbols, so their names are those of the packages
    rw [settlesName_iff_of_knownWildcards_several h hno hseveral, hknown]
    simp only [List.map_cons, List.map_map]
    rfl

end Wildcards

/-- **A simple name is settled by what is computed for it, and by nothing else.** -/
theorem settlesName_iff (h : IsReferenced history directory symbols) {name : String} {o : Outcome} :
    SettlesName r history directory name o ↔ r.resolveSimpleName directory symbols name = o := by
  by_cases hno : NoOwn r history directory name
  · exact settlesName_iff_of_noOwn h hno
  · have hown : r.resolveInOwn directory symbols name ≠ .unresolved :=
      mt (resolveInOwn_eq_unresolved_iff h).1 hno
    rw [resolveSimpleName_of_own hown]
    constructor
    · intro hsettles
      cases hsettles with
      | own hfirst hin =>
        exact (resolveInOwn_eq_iff h (inWorkspace_ne_unresolved hin)).2 ⟨_, hfirst, hin⟩
      | wildcard hsole _ => exact absurd hsole.noOwn hno
      | wildcards hno' => exact absurd hno' hno
      | builtin hno' => exact absurd hno' hno
      | unresolved hno' => exact absurd hno' hno
    · rintro rfl
      obtain ⟨package, hfirst, hin⟩ := (resolveInOwn_eq_iff h hown).1 rfl
      exact .own hfirst hin

end Resolver

end JavaDeps.Resolve
