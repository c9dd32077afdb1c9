import JavaDeps.Proofs.Resolve.Ambiguities
import Mathlib.Data.Finset.Card

/-!
# How often a symbol is reported

A unit reports a symbol once for each of its references that several providers answer under that
symbol, and once for a conflict that no reference brings up. **So a symbol is reported once exactly
if at most one reference brings it up** (`ambiguity_count_le_one_iff`). A symbol named in full and a
literal never bring up the same symbol, but a simple name does what an import of another file does:
with both in one unit, the symbol is reported twice (`not_forall_ambiguity_count_le_one`).
-/

namespace JavaDeps.Resolve

open Workspace (Event Index NamesInFull ReferencedSymbols)
open Java (Reference qualify)

/-- What is read off a list without repetitions has a value at most once if at most one element
has it. -/
theorem count_filterMap_le_one_iff {α β : Type} [DecidableEq α] [DecidableEq β] {l : List α}
    (hl : l.Nodup) (f : α → Option β) (b : β) :
    (l.filterMap f).count b ≤ 1 ↔
      ∀ x ∈ l, ∀ y ∈ l, f x = some b → f y = some b → x = y := by
  have hcount : (l.filterMap f).count b = (l.filter (f · == some b)).toFinset.card := by
    rw [List.count_filterMap, List.countP_eq_length_filter,
      List.toFinset_card_of_nodup (hl.filter _)]
  rw [hcount, Finset.card_le_one]
  simp only [List.mem_toFinset, List.mem_filter, beq_iff_eq, and_imp]
  constructor
  · exact fun h x hx y hy hfx hfy ↦ h x hx hfx y hy hfy
  · exact fun h x hx hfx y hy hfy ↦ h x hx y hy hfx hfy

namespace Resolver

variable {r : Resolver} {history : List Event} {directory : Path} {symbols : ReferencedSymbols}

/-! ### One reference after the other -/

/-- A set lists its members once. -/
theorem toList_nodup (s : SortedSet String) : s.toList.Nodup :=
  s.increasing.imp ne_of_compare_eq_lt

/-- **A directory refers to each thing once.** -/
theorem references_nodup (reflection : Bool) (symbols : ReferencedSymbols) :
    (references reflection symbols).Nodup := by
  have hqualified : (symbols.qualified.toList.map Reference.qualified).Nodup :=
    (toList_nodup _).map fun _ _ ↦ Reference.qualified.inj
  have hreflective : ((symbols.reflective.toList.filter (!symbols.qualified.contains ·)).map
      Reference.reflective).Nodup :=
    ((toList_nodup _).filter _).map fun _ _ ↦ Reference.reflective.inj
  have hsimple : (symbols.simpleNames.toList.map Reference.simple).Nodup :=
    (toList_nodup _).map fun _ _ ↦ Reference.simple.inj
  -- the three lists hold references of different kinds
  have hapart : ∀ {f g : String → Reference} {l l' : List String}, (∀ s t, f s ≠ g t) →
      (l.map f).Disjoint (l'.map g) := by
    intro f g l l' hne ref hf hg
    obtain ⟨s, -, rfl⟩ := List.mem_map.1 hf
    obtain ⟨t, -, heq⟩ := List.mem_map.1 hg
    exact hne s t heq.symm
  rw [references]
  split
  · refine (hqualified.append hreflective (hapart (by simp))).append hsimple ?_
    exact List.disjoint_append_left.2 ⟨hapart (by simp), hapart (by simp)⟩
  · rw [List.append_nil]
    exact hqualified.append hsimple (hapart (by simp))

/-- Whether a reference of a directory is left open under a symbol. Different references may be left
open under the same one. -/
def LeavesOpenAs (r : Resolver) (history : List Event) (directory : Path) (symbol : String)
    (ref : Reference) : Prop :=
  ∃ a, r.LeavesOpen history directory ref a ∧ a.symbol = symbol

/-- A symbol is brought up once exactly if at most one reference is left open under it. -/
theorem count_openAmbiguities_le_one_iff (hindex : r.index = Index.ofHistory history)
    {symbol : String} :
    ((r.openAmbiguities directory).map (·.symbol)).count symbol ≤ 1 ↔
      ∀ ref ref', r.LeavesOpenAs history directory symbol ref →
        r.LeavesOpenAs history directory symbol ref' → ref = ref' := by
  rcases hsymbols : (Index.ofHistory history).referenced? directory with - | symbols
  · -- nothing is recorded, so there is no reference
    have hnone : ∀ ref a, ¬ r.LeavesOpen history directory ref a := by
      intro ref a hleaves
      obtain ⟨symbols, hsome, -⟩ := exists_isReferenced_of_refers hleaves.1
      rw [hsymbols] at hsome
      cases hsome
    have hempty : r.openAmbiguities directory = [] :=
      List.eq_nil_iff_forall_not_mem.2 fun a ha ↦ by
        obtain ⟨ref, hleaves⟩ := (mem_openAmbiguities_iff hindex).1 ha
        exact hnone ref a hleaves
    rw [hempty]
    exact iff_of_true (Nat.zero_le 1) fun ref _ h ↦ absurd h.choose_spec.1 (hnone ref _)
  · have hreferenced := (Workspace.tracks_ofHistory history).isReferenced hsymbols
    have hopen : (r.openAmbiguities directory).map (·.symbol) =
        (references r.options.runtime.reflection symbols).filterMap fun ref ↦
          (ambiguity? (r.outcomeOf directory symbols ref)).map (·.symbol) := by
      rw [openAmbiguities, hindex, hsymbols, Option.getD_some, outcomes_eq, List.filterMap_map,
        List.map_filterMap]
      rfl
    have hleaves : ∀ ref, r.LeavesOpenAs history directory symbol ref ↔
        ref ∈ references r.options.runtime.reflection symbols ∧
          (ambiguity? (r.outcomeOf directory symbols ref)).map (·.symbol) = some symbol := by
      intro ref
      simp only [LeavesOpenAs, LeavesOpen, mem_references_iff hreferenced, settles_iff hreferenced,
        Option.map_eq_some_iff, ambiguity?_eq_some_iff, and_assoc, exists_and_left]
    rw [hopen, count_filterMap_le_one_iff (references_nodup _ symbols)]
    simp only [hleaves]
    constructor
    · exact fun h ref ref' hr hr' ↦ h ref hr.1 ref' hr'.1 hr.2 hr'.2
    · exact fun h ref hmem ref' hmem' hr hr' ↦ h ref ref' ⟨hmem, hr⟩ ⟨hmem', hr'⟩

/-! ### The report -/

/-- **A conflict never repeats a symbol**: it is reported for symbols that no reference brings
up. -/
theorem count_ambiguities_le_one_iff (hindex : r.index = Index.ofHistory history) (kind : UnitKind)
    {symbol : String} :
    ((r.resolveUnit directory kind).report.ambiguities.map (·.symbol)).count symbol ≤ 1 ↔
      ((r.openAmbiguities directory).map (·.symbol)).count symbol ≤ 1 := by
  have hquiet : ((r.quietConflicts directory).map (·.1)).Nodup :=
    (conflicts_nodup hindex directory).sublist (List.filter_sublist.map _)
  have hcount : ((r.resolveUnit directory kind).report.ambiguities.map (·.symbol)).count symbol =
      ((r.openAmbiguities directory).map (·.symbol)).count symbol +
        ((r.quietConflicts directory).map (·.1)).count symbol := by
    rw [((ambiguities_perm hindex kind).map _).count_eq, List.map_append, List.count_append,
      List.map_map]
    rfl
  have hatMost : ((r.quietConflicts directory).map (·.1)).count symbol ≤ 1 :=
    List.nodup_iff_count_le_one.1 hquiet symbol
  by_cases hopen : symbol ∈ (r.openAmbiguities directory).map (·.symbol)
  · have hnone : symbol ∉ (r.quietConflicts directory).map (·.1) := by
      intro hmem
      obtain ⟨c, hc, rfl⟩ := List.mem_map.1 hmem
      obtain ⟨a, ha, hsymbol⟩ := List.mem_map.1 hopen
      have hother := List.all_eq_true.1 (List.mem_filter.1 hc).2 a ha
      exact bne_iff_ne.1 hother hsymbol
    rw [hcount, List.count_eq_zero.2 hnone, Nat.add_zero]
  · rw [hcount, List.count_eq_zero.2 hopen, Nat.zero_add]
    exact iff_of_true hatMost (Nat.zero_le 1)

/-- A symbol that is no simple name is left open under itself. -/
theorem symbol_eq_of_settlesSymbol {usage : Usage} {symbol : String} {a : Ambiguity}
    (h : SettlesSymbol r directory usage symbol (.ambiguous a)) : a.symbol = symbol := by
  cases h with
  | indexed hin =>
    cases hin with
    | workspace hin =>
      cases hin with
      | several _ => rfl
    | lockFile _ hin =>
      cases hin with
      | several _ => rfl

/-- A symbol is brought up by its name in full, or by a literal if it is not named in full, or by a
simple name. -/
theorem leavesOpenAs_cases {symbol : String} {ref : Reference}
    (h : r.LeavesOpenAs history directory symbol ref) :
    (ref = .qualified symbol ∧ NamesInFull history directory symbol) ∨
      (ref = .reflective symbol ∧ ¬ NamesInFull history directory symbol) ∨
        ∃ name, ref = .simple name := by
  obtain ⟨a, ⟨hrefers, hsettles⟩, rfl⟩ := h
  cases hrefers with
  | qualified hnames =>
    cases hsettles with
    | qualified h =>
      obtain rfl := symbol_eq_of_settlesSymbol h
      exact .inl ⟨rfl, hnames⟩
  | reflective _ _ hfull =>
    cases hsettles with
    | reflective h =>
      obtain rfl := symbol_eq_of_settlesSymbol h
      exact .inr (.inl ⟨rfl, hfull⟩)
  | simple _ => exact .inr (.inr ⟨_, rfl⟩)

/-- **Symbols named in full and in literals never repeat each other.** -/
theorem simple_of_leavesOpenAs_of_ne {symbol : String} {ref ref' : Reference}
    (h : r.LeavesOpenAs history directory symbol ref)
    (h' : r.LeavesOpenAs history directory symbol ref') (hne : ref ≠ ref') :
    ∃ name, ref = .simple name ∨ ref' = .simple name := by
  rcases leavesOpenAs_cases h with ⟨rfl, hfull⟩ | ⟨rfl, hfull⟩ | ⟨name, rfl⟩
  · rcases leavesOpenAs_cases h' with ⟨rfl, -⟩ | ⟨-, hother⟩ | ⟨name, rfl⟩
    · exact absurd rfl hne
    · exact absurd hfull hother
    · exact ⟨name, .inr rfl⟩
  · rcases leavesOpenAs_cases h' with ⟨-, hother⟩ | ⟨rfl, -⟩ | ⟨name, rfl⟩
    · exact absurd hother hfull
    · exact absurd rfl hne
    · exact ⟨name, .inr rfl⟩
  · exact ⟨name, .inl rfl⟩

end Resolver

/-- **A symbol is reported once exactly if at most one reference brings it up.** For every history
of an index, every lock file, every way of labelling and all options: the report of a unit has a
symbol at most once exactly if no two references of the directory are left open under it, whether
or not the directory has a conflict about it; and of two references that are, one is a simple
name. -/
theorem ambiguity_count_le_one_iff (history : List Event) (classes : Maven.ClassIndex)
    (labels : LabelScheme) (options : Options) (directory : Path) (kind : UnitKind) :
    let r : Resolver := { index := .ofHistory history, classes, labels, options }
    let ambiguities := (r.resolveUnit directory kind).report.ambiguities
    (∀ symbol, (ambiguities.map (·.symbol)).count symbol ≤ 1 ↔
      ∀ ref ref', r.LeavesOpenAs history directory symbol ref →
        r.LeavesOpenAs history directory symbol ref' → ref = ref') ∧
    ∀ symbol ref ref', r.LeavesOpenAs history directory symbol ref →
      r.LeavesOpenAs history directory symbol ref' → ref ≠ ref' →
        ∃ name, ref = .simple name ∨ ref' = .simple name := by
  intro r ambiguities
  constructor
  · intro symbol
    rw [Resolver.count_ambiguities_le_one_iff rfl, Resolver.count_openAmbiguities_le_one_iff rfl]
  · intro symbol ref ref' h h' hne
    exact Resolver.simple_of_leavesOpenAs_of_ne h h' hne

/-- Two directories that declare `x.Dup`, and a third with two files: one imports `x.Dup`, the other
imports the package `x` whole and uses the simple name `Dup`. -/
theorem not_forall_ambiguity_count_le_one :
    ¬ ∀ (history : List Event) (classes : Maven.ClassIndex) (options : Options) (directory : Path)
        (symbol : String),
      let r : Resolver := { index := .ofHistory history, classes, options }
      let ambiguities := (r.resolveUnit directory .library).report.ambiguities
      (ambiguities.map (·.symbol)).count symbol ≤ 1 := by
  intro h
  let declaring : Java.Facts := { package := "x", declaredTypes := ["Dup"] }
  let importing : Java.Facts := { package := "user", imports := .ofList ["x.Dup"] }
  let mentioning : Java.Facts :=
    { package := "user", wildcardImports := .ofList ["x"], simpleNames := .ofList ["Dup"] }
  have hcount := h
    [.record ⟨"one"⟩ ⟨"one/Dup.java"⟩ ⟨⟨[]⟩, declaring⟩,
      .record ⟨"two"⟩ ⟨"two/Dup.java"⟩ ⟨⟨[]⟩, declaring⟩,
      .record ⟨"user"⟩ ⟨"user/A.java"⟩ ⟨⟨[]⟩, importing⟩,
      .record ⟨"user"⟩ ⟨"user/B.java"⟩ ⟨⟨[]⟩, mentioning⟩]
    {} {} ⟨"user"⟩ "x.Dup"
  exact absurd ((Resolver.count_ambiguities_le_one_iff rfl _).1 hcount) (by decide +kernel)

end JavaDeps.Resolve
