import JavaDeps.Proofs.Path.Spelling

/-!
# Paths seen from a directory

A clean path first leaves the directory it is seen from, to the root or some directories up, and
then goes down names (`cleanComponents_eq`): it is its `climb` and its `descent`. Seen from a base,
it starts its descent somewhere (`startOf`). **Two paths are one directory exactly if one of them,
starting further up, comes down again to where the other starts, and from there goes its way**
(`clean_join_eq_iff`). If both climb alike, cleaning them alone decides
(`clean_join_eq_iff_of_climb`).
-/

namespace JavaDeps

/-- Whether a component is a name. -/
def Component.isNormal : Component → Bool
  | .normal _ => true
  | _ => false

namespace Path

/-! ### Cleaning in parts -/

/-- Paths have the same cleaned form if their components are the same when cleaned. -/
theorem clean_eq_clean_iff {p q : Path} :
    p.clean = q.clean ↔ cleanComponents p.components = cleanComponents q.components := by
  constructor
  · intro h
    have hcomponents := congrArg components h
    rw [components_clean, components_clean] at hcomponents
    split at hcomponents <;> split at hcomponents
    · simp_all
    · exact absurd (hcomponents ▸ List.mem_cons_self) (current_not_mem_cleanComponents q)
    · exact absurd (hcomponents ▸ List.mem_cons_self) (current_not_mem_cleanComponents p)
    · exact hcomponents
  · intro h
    rw [clean, clean, h]

/-- Nothing is there after cleaning that was not there before. -/
theorem mem_of_mem_cleanComponents {c : Component} {cs : List Component}
    (h : c ∈ cleanComponents cs) : c ∈ cs := by
  induction cs using List.reverseRecOn with
  | nil => exact h
  | append_singleton cs last ih =>
    rw [cleanComponents, List.mem_reverse, List.foldl_append, List.foldl_cons, List.foldl_nil] at h
    have hbefore : c ∈ cs.foldl cleanStep [] → c ∈ cs ++ [last] := fun hc ↦
      List.mem_append_left _ (ih (List.mem_reverse.2 hc))
    rcases cleanStep_cases (cs.foldl cleanStep []) last with hstep | ⟨s, before, hcs, hstep⟩ | hstep
    · exact hbefore (hstep ▸ h)
    · exact hbefore (hcs ▸ List.mem_cons_of_mem _ (hstep ▸ h))
    · rw [hstep, List.mem_cons] at h
      exact h.elim (fun hc ↦ hc ▸ List.mem_append_right _ List.mem_cons_self) hbefore

/-- To clean a path takes no notice of the dots in it. -/
theorem foldl_cleanStep_filter (cs start : List Component) :
    (cs.filter (· != .current)).foldl cleanStep start = cs.foldl cleanStep start := by
  induction cs generalizing start with
  | nil => rfl
  | cons c cs ih =>
    cases c with
    | current => exact ih start
    | _ => exact ih _

/-- One more step may be taken before or after what is there is put behind a start. -/
theorem foldl_reverse_cleanStep (start : List Component) {reversed : List Component} (c : Component)
    (hroot : .root ∉ reversed) :
    (cleanStep reversed c).reverse.foldl cleanStep start =
      cleanStep (reversed.reverse.foldl cleanStep start) c := by
  have hkept : (c :: reversed).reverse.foldl cleanStep start =
      cleanStep (reversed.reverse.foldl cleanStep start) c := by
    rw [List.reverse_cons, List.foldl_append]
    rfl
  cases c with
  | current => rfl
  | parent =>
    rcases reversed with - | ⟨last, before⟩
    · exact hkept
    · cases last with
      | root => exact absurd List.mem_cons_self hroot
      | normal s =>
        -- the name is put behind the start and taken off again
        rw [List.reverse_cons, List.foldl_append]
        rfl
      | _ => exact hkept
  | _ => exact hkept

/-- **What comes after may be cleaned first**, unless it starts anew at the root. -/
theorem cleanComponents_append_cleanComponents {cs ds : List Component} (hds : .root ∉ ds) :
    cleanComponents (cs ++ cleanComponents ds) = cleanComponents (cs ++ ds) := by
  rw [cleanComponents, List.foldl_append, cleanComponents, cleanComponents, List.foldl_append]
  generalize cs.foldl cleanStep [] = start
  congr 1
  induction ds using List.reverseRecOn with
  | nil => rfl
  | append_singleton ds c ih =>
    have hroot : .root ∉ ds := fun hroot ↦ hds (List.mem_append_left _ hroot)
    have hcleaned : .root ∉ ds.foldl cleanStep [] := fun h ↦
      hroot (mem_of_mem_cleanComponents (List.mem_reverse.2 h))
    rw [List.foldl_append, List.foldl_append, ← ih hroot]
    exact foldl_reverse_cleanStep start c hcleaned

/-- The components of a join, but for cleaning. -/
theorem cleanComponents_join {p q : Path} (hq : q.isAbsolute = false) :
    cleanComponents (p.join q).components = cleanComponents (p.components ++ q.components) := by
  by_cases hp : p.text = ""
  · rw [join_of_empty hp hq, components_of_empty hp, List.nil_append]
  · rw [components_join hp hq, filterMap_segments hq, cleanComponents, cleanComponents,
      List.foldl_append, List.foldl_append, foldl_cleanStep_filter]

/-! ### Climb and descent -/

/-- What may stand before the names of a clean path: the root, or so many directories up. -/
def IsClimb (cs : List Component) : Prop := cs = [.root] ∨ ∃ n, cs = List.replicate n .parent

theorem IsClimb.reverse_eq {cs : List Component} (h : IsClimb cs) : cs.reverse = cs := by
  rcases h with rfl | ⟨n, rfl⟩
  · rfl
  · exact List.reverse_replicate

/-- Whether components in reverse are names and then a climb. -/
def IsDescent (reversed : List Component) : Prop :=
  ∃ (names : List String) (climb : List Component),
    reversed = names.map .normal ++ climb ∧ IsClimb climb

/-- A step of cleaning leaves a climb with a descent behind it one. -/
theorem IsDescent.cleanStep {reversed : List Component} (h : IsDescent reversed) {c : Component}
    (hc : c.Follows) : IsDescent (cleanStep reversed c) := by
  obtain ⟨names, climb, rfl, hclimb⟩ := h
  cases c with
  | normal s => exact ⟨s :: names, climb, rfl, hclimb⟩
  | parent =>
    rcases names with - | ⟨s, names⟩
    · -- there is no name to take off
      rcases hclimb with rfl | ⟨n, rfl⟩
      · exact ⟨[], [.root], rfl, .inl rfl⟩
      · refine ⟨[], List.replicate (n + 1) .parent, ?_, .inr ⟨n + 1, rfl⟩⟩
        cases n <;> rfl
    · exact ⟨names, climb, rfl, hclimb⟩
  | _ => exact hc.elim

/-- **A cleaned path climbs first and descends then.** -/
theorem isDescent_foldl_cleanStep (p : Path) : IsDescent (p.components.foldl cleanStep []) := by
  obtain ⟨lead, rest, hcomponents, hlead, hrest⟩ := exists_components_eq p
  rw [hcomponents, List.foldl_append]
  refine List.foldlRecOn (motive := IsDescent) rest cleanStep ?_ fun _ h c hc ↦
    h.cleanStep (hrest c hc)
  rcases hlead with rfl | rfl | rfl
  · exact ⟨[], [], rfl, .inr ⟨0, rfl⟩⟩
  · exact ⟨[], [.root], rfl, .inl rfl⟩
  · exact ⟨[], [], rfl, .inr ⟨0, rfl⟩⟩

/-- How a path leaves the directory that it is seen from, when it is clean. -/
def climb (p : Path) : List Component := (cleanComponents p.components).filter (!·.isNormal)

/-- The names that a path goes down then. -/
def descent (p : Path) : List Component := (cleanComponents p.components).filter (·.isNormal)

/-- What a cleaned path descends by are plain names. -/
theorem exists_descent_eq (p : Path) :
    ∃ names : List String, p.descent = names.map .normal ∧ IsClimb p.climb ∧
      cleanComponents p.components = p.climb ++ names.map .normal := by
  obtain ⟨names, climb, hfold, hclimb⟩ := isDescent_foldl_cleanStep p
  have hclean : cleanComponents p.components = climb ++ names.reverse.map .normal := by
    rw [cleanComponents, hfold, List.reverse_append, hclimb.reverse_eq, List.map_reverse]
  have hleft : p.climb = climb := by
    rw [Path.climb, hclean, List.filter_append]
    rcases hclimb with rfl | ⟨n, rfl⟩ <;> simp [Component.isNormal]
  have hright : p.descent = names.reverse.map .normal := by
    rw [Path.descent, hclean, List.filter_append]
    rcases hclimb with rfl | ⟨n, rfl⟩ <;> simp [Component.isNormal]
  exact ⟨names.reverse, hright, hleft ▸ hclimb, hleft ▸ hclean⟩

/-- **A clean path climbs first and then goes down names.** -/
theorem cleanComponents_eq (p : Path) : cleanComponents p.components = p.climb ++ p.descent := by
  obtain ⟨names, hdescent, -, hclean⟩ := exists_descent_eq p
  rw [hclean, hdescent]

/-! ### Absolute paths -/

/-- A path has the root among its components just if it is absolute. -/
theorem root_mem_components_iff {p : Path} : .root ∈ p.components ↔ p.isAbsolute = true := by
  rw [← head?_components_eq_root_iff]
  refine ⟨fun h ↦ ?_, List.mem_of_mem_head?⟩
  obtain ⟨lead, rest, hcomponents, hlead, hrest⟩ := exists_components_eq p
  rw [hcomponents] at h ⊢
  rcases List.mem_append.1 h with h | h
  · rcases hlead with rfl | rfl | rfl
    · cases h
    · rfl
    · simp at h
  · exact (hrest _ h).elim

/-- The root is never cleaned away. -/
theorem root_mem_cleanStep {reversed : List Component} (c : Component) (h : .root ∈ reversed) :
    .root ∈ cleanStep reversed c := by
  rcases cleanStep_cases reversed c with hstep | ⟨s, before, rfl, hstep⟩ | hstep <;> rw [hstep]
  · exact h
  · simpa using h
  · exact List.mem_cons_of_mem _ h

/-- The root stays, whatever climbs from it. -/
theorem root_mem_climb_iff {p : Path} : .root ∈ p.climb ↔ p.isAbsolute = true := by
  have hkept : (!Component.root.isNormal) = true := rfl
  rw [climb, List.mem_filter, and_iff_left hkept]
  constructor
  · exact fun h ↦ root_mem_components_iff.1 (mem_of_mem_cleanComponents h)
  · intro h
    obtain ⟨rest, hcomponents⟩ := List.head?_eq_some_iff.1 (head?_components_eq_root_iff.2 h)
    rw [cleanComponents, hcomponents, List.mem_reverse]
    exact List.foldlRecOn (motive := fun reversed ↦ .root ∈ reversed) rest cleanStep
      List.mem_cons_self fun _ h c _ ↦ root_mem_cleanStep c h

/-! ### Anchoring -/

/-- Whether cleaning changes nothing but the spelling of a path: there is no step to a parent that
could be removed, and no dot unless it is all that there is. -/
def IsSettled (p : Path) : Prop := p.clean.components = p.components

instance (p : Path) : Decidable p.IsSettled :=
  inferInstanceAs (Decidable (p.clean.components = p.components))

/-- Settled paths have the same cleaned form only if they have the same components. -/
theorem IsSettled.clean_eq_clean_iff {p q : Path} (hp : p.IsSettled) (hq : q.IsSettled) :
    p.clean = q.clean ↔ p.components = q.components := by
  constructor
  · intro h
    rw [← hp, ← hq, h]
  · intro h
    rw [clean, clean, h]

/-- Where a path that is seen from a base starts to go down names. -/
def startOf (base p : Path) : List Component :=
  if p.isAbsolute then p.climb else cleanComponents (base.components ++ p.climb)

/-- **Seen from a base, a path goes the same way down from where it starts.** -/
theorem cleanComponents_join_eq (base p : Path) :
    cleanComponents (base.join p).components = base.startOf p ++ p.descent := by
  cases hp : p.isAbsolute with
  | true => rw [join, if_pos hp, startOf, if_pos hp, cleanComponents_eq]
  | false =>
    have hroot : .root ∉ p.components := fun h ↦ by simp [root_mem_components_iff.1 h] at hp
    obtain ⟨names, hdescent, -, -⟩ := exists_descent_eq p
    rw [startOf, hp, if_neg Bool.false_ne_true, cleanComponents_join hp,
      ← cleanComponents_append_cleanComponents hroot, cleanComponents_eq, ← List.append_assoc,
      hdescent, cleanComponents_append_names]

theorem startOf_congr {p q : Path} (h : p.climb = q.climb) (base : Path) :
    base.startOf p = base.startOf q := by
  have habsolute : p.isAbsolute = q.isAbsolute := by
    rw [Bool.eq_iff_iff, ← root_mem_climb_iff, ← root_mem_climb_iff, h]
  rw [startOf, startOf, habsolute, h]

/-- Whether `q` starts above `p`, and comes by there on its way to where `p` goes. -/
def ComesBy (base p q : Path) : Prop :=
  ∃ way, base.startOf p = base.startOf q ++ way ∧ q.descent = way ++ p.descent

/-- **Seen from a base, two paths are one directory exactly if one comes by where the other
starts**, and goes on as it does. -/
theorem clean_join_eq_iff {base p q : Path} :
    (base.join p).clean = (base.join q).clean ↔ ComesBy base p q ∨ ComesBy base q p := by
  rw [clean_eq_clean_iff, cleanComponents_join_eq, cleanComponents_join_eq,
    List.append_eq_append_iff, or_comm]
  exact Iff.rfl

/-- A path may come by the directory that it is seen from. -/
example : (Path.join ⟨"/work"⟩ ⟨"../work/src"⟩).clean = (Path.join ⟨"/work"⟩ ⟨"src"⟩).clean := by
  decide +kernel

/-- **Of paths that climb alike, a base makes no two one and tells no two apart.** -/
theorem clean_join_eq_iff_of_climb {p q : Path} (h : p.climb = q.climb) (base : Path) :
    (base.join p).clean = (base.join q).clean ↔ p.clean = q.clean := by
  rw [clean_eq_clean_iff, clean_eq_clean_iff, cleanComponents_join_eq, cleanComponents_join_eq,
    startOf_congr h, cleanComponents_eq p, cleanComponents_eq q, h, List.append_cancel_left_eq,
    List.append_cancel_left_eq]

end Path

end JavaDeps
