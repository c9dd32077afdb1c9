import JavaDeps.Proofs.Sorted.Membership
import JavaDeps.Resolve.Classification
import Mathlib.Data.List.Induction
import Mathlib.Order.Bounds.Defs

/-!
# What a set of dependencies holds

A set of dependencies is built by one insertion for each reason found. `get?_ofList_eq_compile_iff`
and `get?_ofList_eq_runtime_iff` say what stays of a list of reasons: **a label is needed to compile
if some reason says so, and only to run if some reason says that and none says more**. Order and
repetition of the reasons do not appear in the statements.

Nor do they matter for the set itself (`sumsUp_and_order_free`): a set that sums up some reasons is
determined by what they are, in whatever order and however often they were found.
-/

namespace JavaDeps.Resolve

namespace Classification

@[simp] theorem strongest_compile (c : Classification) : c.strongest .compile = .compile := by
  cases c <;> rfl

@[simp] theorem strongest_runtime (c : Classification) : c.strongest .runtime = c := by
  cases c <;> rfl

/-- How much a classification asks for. -/
def rank : Classification → Nat
  | runtime => 0
  | compile => 1

/-- What is needed only to run asks for less than what is needed to compile. -/
instance : LE Classification := ⟨fun c d ↦ c.rank ≤ d.rank⟩

theorem le_compile (c : Classification) : c ≤ .compile := by
  cases c <;> decide

theorem runtime_le (c : Classification) : .runtime ≤ c := Nat.zero_le _

end Classification

namespace DependencySet

/-- **To insert a label strengthens what is there**, and leaves other labels alone. -/
theorem get?_insert (s : DependencySet) (label label' : Label) (c : Classification) :
    (s.insert label c).get? label' =
      if label' = label then some ((s.get? label).elim c (·.strongest c)) else s.get? label' := by
  show (s.labels.alter label _).get? label' = _
  rw [SortedMap.get?_alter]
  simp only [Std.LawfulEqOrd.compare_eq_iff_eq]
  rfl

theorem ofList_concat (l : List (Label × Classification)) (e : Label × Classification) :
    ofList (l ++ [e]) = (ofList l).insert e.1 e.2 := by
  simp [ofList]

/-- A label is needed to compile just if some reason says so. -/
theorem get?_ofList_eq_compile_iff {l : List (Label × Classification)} {label : Label} :
    (ofList l).get? label = some .compile ↔ (label, .compile) ∈ l := by
  induction l using List.reverseRecOn with
  | nil =>
    refine ⟨fun h ↦ ?_, fun h ↦ absurd h List.not_mem_nil⟩
    cases h
  | append_singleton l e ih =>
    obtain ⟨label', c⟩ := e
    rw [ofList_concat, get?_insert, List.mem_append, List.mem_singleton, ← ih, Prod.mk.injEq]
    by_cases hlabel : label = label'
    · subst hlabel
      rcases hold : (ofList l).get? label with - | - | - <;> cases c <;> simp
    · simp [hlabel]

/-- A label is not needed just if no reason is about it. -/
theorem get?_ofList_eq_none_iff {l : List (Label × Classification)} {label : Label} :
    (ofList l).get? label = none ↔ ∀ c, (label, c) ∉ l := by
  induction l using List.reverseRecOn with
  | nil => exact ⟨fun _ _ ↦ List.not_mem_nil, fun _ ↦ rfl⟩
  | append_singleton l e ih =>
    obtain ⟨label', c⟩ := e
    rw [ofList_concat, get?_insert]
    simp only [List.mem_append, List.mem_singleton, Prod.mk.injEq, not_or, forall_and]
    rw [← ih]
    by_cases hlabel : label = label'
    · simp [hlabel]
    · simp [hlabel]

/-- A label is needed at run time if some reason says that, and none says more. -/
theorem get?_ofList_eq_runtime_iff {l : List (Label × Classification)} {label : Label} :
    (ofList l).get? label = some .runtime ↔
      (label, .runtime) ∈ l ∧ (label, .compile) ∉ l := by
  rw [← get?_ofList_eq_compile_iff]
  constructor
  · intro h
    refine ⟨?_, by rw [h]; exact fun hc ↦ by cases hc⟩
    -- some reason was found, and it is not the other one
    by_contra hno
    have hnone : (ofList l).get? label = none := by
      refine get?_ofList_eq_none_iff.2 fun c hc ↦ ?_
      cases c with
      | runtime => exact hno hc
      | compile =>
        rw [← get?_ofList_eq_compile_iff, h] at hc
        cases hc
    rw [h] at hnone
    cases hnone
  · rintro ⟨hruntime, hcompile⟩
    rcases hget : (ofList l).get? label with - | - | -
    · exact absurd hruntime (get?_ofList_eq_none_iff.1 hget _)
    · rfl
    · exact absurd hget hcompile

/-! ### The two lists -/

/-- The labels of a classification are those that have it. -/
theorem mem_labelsFor {s : DependencySet} {label : Label} {c : Classification} :
    label ∈ s.labelsFor c ↔ s.get? label = some c := by
  rw [get?, SortedMap.get?_eq_some_iff, labelsFor, List.mem_map]
  simp only [List.mem_filter, beq_iff_eq, Std.LawfulEqOrd.compare_eq_iff_eq]
  constructor
  · rintro ⟨⟨label, c⟩, ⟨hmem, rfl⟩, rfl⟩
    exact ⟨label, hmem, rfl⟩
  · rintro ⟨label, hmem, rfl⟩
    exact ⟨(_, c), ⟨hmem, rfl⟩, rfl⟩

theorem labelsFor_increasing (s : DependencySet) (c : Classification) :
    (s.labelsFor c).Pairwise (fun a b ↦ compare a b = .lt) :=
  List.pairwise_map.2 (s.labels.increasing.filter _)

/-! ### Summing up reasons -/

/-- **Of the reasons for a label, the strongest is kept.** -/
theorem get?_ofList_eq_some_iff {l : List (Label × Classification)} {label : Label}
    {c : Classification} :
    (ofList l).get? label = some c ↔ IsGreatest {d | (label, d) ∈ l} c := by
  cases c with
  | compile =>
    rw [get?_ofList_eq_compile_iff]
    exact ⟨fun h ↦ ⟨h, fun d _ ↦ d.le_compile⟩, fun h ↦ h.1⟩
  | runtime =>
    rw [get?_ofList_eq_runtime_iff]
    refine and_congr_right fun _ ↦ ⟨fun hcompile d hd ↦ ?_, fun hgreatest hcompile ↦ ?_⟩
    · cases d with
      | runtime => exact Classification.runtime_le _
      | compile => exact absurd hd hcompile
    · exact absurd (hgreatest hcompile) (by decide)

/-- Whether a set sums up some reasons: it holds the strongest reason for each label, and its two
lists share the labels out by that. -/
structure SumsUp (reasons : List (Label × Classification)) (s : DependencySet) : Prop where
  get?_eq_some_iff : ∀ label c,
    s.get? label = some c ↔ IsGreatest {d | (label, d) ∈ reasons} c
  deps_increasing : s.split.1.Pairwise fun a b ↦ compare a b = .lt
  runtimeDeps_increasing : s.split.2.Pairwise fun a b ↦ compare a b = .lt
  disjoint : s.split.1.Disjoint s.split.2
  mem_split_iff : ∀ label, label ∈ s.split.1 ∨ label ∈ s.split.2 ↔ ∃ c, (label, c) ∈ reasons
  mem_deps_iff : ∀ label, label ∈ s.split.1 ↔ (label, .compile) ∈ reasons

theorem ext_get? {s s' : DependencySet} (h : ∀ label, s.get? label = s'.get? label) : s = s' := by
  obtain ⟨labels⟩ := s
  obtain ⟨labels'⟩ := s'
  exact congrArg mk (SortedMap.ext_get? h)

/-- **What is collected sums up the reasons.** -/
theorem sumsUp_ofList (reasons : List (Label × Classification)) :
    SumsUp reasons (ofList reasons) := by
  have hdeps : ∀ label, label ∈ (ofList reasons).split.1 ↔ (label, .compile) ∈ reasons :=
    fun _ ↦ mem_labelsFor.trans get?_ofList_eq_compile_iff
  have hruntime : ∀ label, label ∈ (ofList reasons).split.2 ↔
      (label, .runtime) ∈ reasons ∧ (label, .compile) ∉ reasons :=
    fun _ ↦ mem_labelsFor.trans get?_ofList_eq_runtime_iff
  refine ⟨fun _ _ ↦ get?_ofList_eq_some_iff, labelsFor_increasing _ _, labelsFor_increasing _ _,
    fun label h h' ↦ ?_, fun label ↦ ?_, hdeps⟩
  · exact ((hruntime label).1 h').2 ((hdeps label).1 h)
  · rw [hdeps, hruntime]
    constructor
    · rintro (h | ⟨h, -⟩)
      · exact ⟨_, h⟩
      · exact ⟨_, h⟩
    · rintro ⟨c, h⟩
      by_cases hcompile : (label, .compile) ∈ reasons
      · exact .inl hcompile
      · cases c with
        | compile => exact .inl h
        | runtime => exact .inr ⟨h, hcompile⟩

/-- **A set is determined by the reasons that it sums up**, without their order and number. -/
theorem SumsUp.unique {reasons reasons' : List (Label × Classification)} {s s' : DependencySet}
    (h : SumsUp reasons s) (h' : SumsUp reasons' s') (hsame : ∀ e, e ∈ reasons ↔ e ∈ reasons') :
    s = s' := by
  refine ext_get? fun label ↦ Option.ext fun c ↦ ?_
  show s.get? label = some c ↔ s'.get? label = some c
  rw [h.get?_eq_some_iff, h'.get?_eq_some_iff]
  simp only [hsame]

theorem ofList_congr {l l' : List (Label × Classification)} (h : ∀ e, e ∈ l ↔ e ∈ l') :
    ofList l = ofList l' :=
  (sumsUp_ofList l).unique (sumsUp_ofList l') h

/-- A set is what its entries sum up to. -/
theorem ofList_entries (s : DependencySet) : ofList s.entries = s := by
  have hmem : ∀ label c, (label, c) ∈ s.entries ↔ s.get? label = some c := fun _ _ ↦
    SortedMap.mem_entries_iff
  refine ext_get? fun label ↦ Option.ext fun c ↦ ?_
  show (ofList s.entries).get? label = some c ↔ s.get? label = some c
  rw [get?_ofList_eq_some_iff]
  simp only [hmem]
  refine ⟨fun h ↦ h.1, fun h ↦ ⟨h, fun d hd ↦ ?_⟩⟩
  obtain rfl : d = c := Option.some.inj (hd.symm.trans h)
  exact Nat.le_refl _

/-- Adding reasons to a set is summing them up together with what it holds. -/
theorem foldl_insert_eq (s : DependencySet) (l : List (Label × Classification)) :
    l.foldl (fun s e ↦ s.insert e.1 e.2) s = ofList (s.entries ++ l) := by
  rw [ofList, List.foldl_append]
  show _ = l.foldl (fun s e ↦ s.insert e.1 e.2) (ofList s.entries)
  rw [ofList_entries]

/-- **What a set of dependencies holds is a matter of the reasons alone.** The set of some reasons
holds for each label the strongest reason for it; its two lists are increasing, have no label in
common, and together have all labels, the first those that are needed to compile for some reason.
The same reasons in another order, or found more often, give the same set, and change every set
that they are added to in the same way. -/
theorem sumsUp_and_order_free (reasons : List (Label × Classification)) :
    SumsUp reasons (ofList reasons) ∧
    ∀ other : List (Label × Classification), (∀ e, e ∈ other ↔ e ∈ reasons) →
      ofList other = ofList reasons ∧
      ∀ s : DependencySet, other.foldl (fun s e ↦ s.insert e.1 e.2) s =
        reasons.foldl (fun s e ↦ s.insert e.1 e.2) s := by
  refine ⟨sumsUp_ofList reasons, fun other hsame ↦ ⟨ofList_congr hsame, fun s ↦ ?_⟩⟩
  rw [foldl_insert_eq, foldl_insert_eq]
  refine ofList_congr fun e ↦ ?_
  rw [List.mem_append, List.mem_append, hsame]

/-- A label that is needed to run, to compile and to run again, and another needed only to run. -/
theorem sumsUp_and_order_free_of_repeating :
    let driver : Label := ⟨"@maven//:driver"⟩
    let other : Label := ⟨"//pkg/b:b"⟩
    ofList [(driver, .compile), (other, .runtime), (driver, .runtime)] =
        ofList [(driver, .runtime), (other, .runtime), (driver, .compile), (driver, .runtime)] ∧
      (ofList [(driver, .compile), (other, .runtime), (driver, .runtime)]).split =
        ([driver], [other]) := by
  intro driver other
  have h := (sumsUp_and_order_free
    [(driver, .runtime), (other, .runtime), (driver, .compile), (driver, .runtime)]).2
    [(driver, .compile), (other, .runtime), (driver, .runtime)] (fun e ↦ by simp; tauto)
  exact ⟨h.1, by decide +kernel⟩

end DependencySet

end JavaDeps.Resolve
