/-!
# Finite sets in order

A finite set over an ordered type, kept as its strictly increasing list. **The list is the set**:
two sets with the same members are the same value, whatever the order of insertion, so everything
built from `toList` is free of history.

The order is a three-way `compare`. Members that compare equal are one member, and the set keeps
the one that was inserted first; for a lawful order that is no choice at all.
-/

namespace JavaDeps

/-- A finite set, as its strictly increasing list. So two sets with the same members are the same
value. -/
structure SortedSet (α : Type) [Ord α] where
  toList : List α
  increasing : toList.Pairwise (fun a b ↦ compare a b = .lt) := by exact .nil

namespace SortedSet

variable {α : Type} [Ord α]

/-- Puts a member in its place in an increasing list, unless one that compares equal is there. -/
def insertOrdered (a : α) : List α → List α
  | [] => [a]
  | b :: rest =>
    match compare a b with
    | .lt => a :: b :: rest
    | .eq => b :: rest
    | .gt => b :: insertOrdered a rest

theorem mem_or_eq_of_mem_insertOrdered {a b : α} {l : List α} (h : b ∈ insertOrdered a l) :
    b = a ∨ b ∈ l := by
  induction l with
  | nil => simpa [insertOrdered] using h
  | cons c rest ih =>
    unfold insertOrdered at h
    split at h <;> grind

theorem insertOrdered_increasing [Std.TransOrd α] (a : α) {l : List α}
    (h : l.Pairwise (fun a b ↦ compare a b = .lt)) :
    (insertOrdered a l).Pairwise (fun a b ↦ compare a b = .lt) := by
  induction l with
  | nil => simp [insertOrdered]
  | cons b rest ih =>
    obtain ⟨hb, hrest⟩ := List.pairwise_cons.1 h
    unfold insertOrdered
    split
    next hab =>
      refine List.pairwise_cons.2 ⟨fun c hc ↦ ?_, h⟩
      rcases List.mem_cons.1 hc with rfl | hc
      · exact hab
      · exact Std.TransCmp.lt_trans hab (hb c hc)
    next => exact h
    next hab =>
      refine List.pairwise_cons.2 ⟨fun c hc ↦ ?_, ih hrest⟩
      rcases mem_or_eq_of_mem_insertOrdered hc with rfl | hc
      · exact Std.OrientedCmp.gt_iff_lt.1 hab
      · exact hb c hc

instance : EmptyCollection (SortedSet α) := ⟨{ toList := [] }⟩

instance : Inhabited (SortedSet α) := ⟨∅⟩

instance [DecidableEq α] : DecidableEq (SortedSet α) := fun s t ↦
  decidable_of_iff (s.toList = t.toList) <| by
    cases s; cases t; simp

@[ext] theorem ext {s t : SortedSet α} (h : s.toList = t.toList) : s = t := by
  cases s; cases t; simp_all

@[simp] theorem toList_empty : (∅ : SortedSet α).toList = [] := rfl

instance : Membership α (SortedSet α) := ⟨fun s a ↦ a ∈ s.toList⟩

theorem mem_iff {a : α} {s : SortedSet α} : a ∈ s ↔ a ∈ s.toList := Iff.rfl

/-- Whether a member compares equal to `a`. -/
def contains (s : SortedSet α) (a : α) : Bool :=
  s.toList.any fun b ↦ compare a b == .eq

/-- The number of members. -/
def size (s : SortedSet α) : Nat := s.toList.length

/-- Whether there are no members. -/
def isEmpty (s : SortedSet α) : Bool := s.toList.isEmpty

/-- The members that satisfy a test. -/
def filter (p : α → Bool) (s : SortedSet α) : SortedSet α where
  toList := s.toList.filter p
  increasing := s.increasing.filter p

@[simp] theorem toList_filter (p : α → Bool) (s : SortedSet α) :
    (s.filter p).toList = s.toList.filter p := rfl

variable [Std.TransOrd α]

/-- The set with one member more. A member that compares equal to it stays in its place. -/
def insert (s : SortedSet α) (a : α) : SortedSet α where
  toList := insertOrdered a s.toList
  increasing := insertOrdered_increasing a s.increasing

/-- The members of both sets. -/
def union (s t : SortedSet α) : SortedSet α :=
  t.toList.foldl insert s

/-- The set of the elements of a list. -/
def ofList (l : List α) : SortedSet α :=
  l.foldl insert ∅

/-- The set without the members that compare equal to `a`. -/
def erase (s : SortedSet α) (a : α) : SortedSet α :=
  s.filter fun b ↦ compare a b != .eq

/-! ### Membership

For a lawful order, membership in what an operation returns is the expected statement. -/

section Membership

variable [Std.LawfulEqOrd α]

omit [Std.TransOrd α] in
theorem mem_insertOrdered {a b : α} {l : List α} : b ∈ insertOrdered a l ↔ b = a ∨ b ∈ l := by
  refine ⟨mem_or_eq_of_mem_insertOrdered, fun h ↦ ?_⟩
  induction l with
  | nil => simpa [insertOrdered] using h
  | cons c rest ih =>
    unfold insertOrdered
    split
    next => simpa using h
    next hac =>
      have := Std.LawfulEqOrd.compare_eq_iff_eq.1 hac
      grind
    next => grind

@[simp] theorem mem_insert {a b : α} {s : SortedSet α} : b ∈ s.insert a ↔ b = a ∨ b ∈ s :=
  mem_insertOrdered

theorem mem_foldl_insert {b : α} {l : List α} {s : SortedSet α} :
    b ∈ l.foldl insert s ↔ b ∈ l ∨ b ∈ s := by
  induction l generalizing s with
  | nil => simp
  | cons a l ih => simp only [List.foldl_cons, ih, mem_insert, List.mem_cons]; grind

@[simp] theorem mem_union {b : α} {s t : SortedSet α} : b ∈ s.union t ↔ b ∈ t ∨ b ∈ s :=
  mem_foldl_insert

@[simp] theorem mem_ofList {b : α} {l : List α} : b ∈ ofList l ↔ b ∈ l := by
  simp [ofList, mem_foldl_insert, mem_iff (s := ∅)]

omit [Std.TransOrd α] in
@[simp] theorem contains_iff {a : α} {s : SortedSet α} : s.contains a = true ↔ a ∈ s := by
  simp only [contains, List.any_eq_true, beq_iff_eq, Std.LawfulEqOrd.compare_eq_iff_eq]
  exact ⟨fun ⟨b, hb, h⟩ ↦ h ▸ hb, fun h ↦ ⟨a, h, rfl⟩⟩

omit [Std.TransOrd α] [Std.LawfulEqOrd α] in
@[simp] theorem mem_filter {a : α} {p : α → Bool} {s : SortedSet α} :
    a ∈ s.filter p ↔ a ∈ s ∧ p a = true := by
  simp [mem_iff]

end Membership

end SortedSet

end JavaDeps
