import JavaDeps.Path
import JavaDeps.Proofs.Text.Separated
import Mathlib.Data.List.Infix
import Mathlib.Data.List.TakeWhile

/-!
# Paths by their components

What the operations on paths do, said through components and without a look at the spelling. A path
is its pieces put together again (`joinPieces_segments`), so **an operation that keeps a list of
pieces keeps a list of components**: joining appends them (`components_join`), stripping a base
takes them off (`exists_stripBase?`), and what `ofComponents` spells reads back as it was
(`components_ofComponents`).
-/

namespace JavaDeps

/-! ### Names -/

/-- Whether a text names something inside of a directory: it is neither empty nor a dot nor two
dots, and it has no separator in it. -/
def IsName (s : String) : Prop := s ∉ ["", ".", ".."] ∧ '/' ∉ s.toList

instance (s : String) : Decidable (IsName s) :=
  inferInstanceAs (Decidable (s ∉ ["", ".", ".."] ∧ '/' ∉ s.toList))

theorem IsName.toList_ne_nil {s : String} (h : IsName s) : s.toList ≠ [] := by
  intro hnil
  have hempty : s = "" := String.toList_inj.1 hnil
  exact h.1 (hempty ▸ List.mem_cons_self)

/-- Whether a component may stand after a separator: a name or a step to the parent, since a dot
does not count there. -/
def Component.Follows : Component → Prop
  | .parent => True
  | .normal s => IsName s
  | _ => False

namespace Path

/-- A name is the component that it spells. -/
theorem bodyComponent?_of_isName {s : String} (h : IsName s) :
    bodyComponent? s.toList = some (.normal s) := by
  obtain ⟨hs, -⟩ := h
  have hne : ∀ t ∈ ["", ".", ".."], s.toList ≠ t.toList := fun t ht heq ↦
    hs (String.toList_inj.1 heq ▸ ht)
  unfold bodyComponent?
  split
  · exact absurd ‹s.toList = []› (hne "" (by decide))
  · exact absurd ‹s.toList = ['.']› (hne "." (by decide))
  · exact absurd ‹s.toList = ['.', '.']› (hne ".." (by decide))
  · rw [String.ofList_toList]

/-- A component that can follow another one is read back from its own text. -/
theorem bodyComponent?_of_follows {c : Component} (h : c.Follows) :
    bodyComponent? c.text.toList = some c := by
  cases c with
  | parent => rfl
  | normal s => exact bodyComponent?_of_isName h
  | _ => exact h.elim

/-- The text of a component that can follow another one has no separator, so that it is one piece of
a path. -/
theorem not_mem_text_of_follows {c : Component} (h : c.Follows) : '/' ∉ c.text.toList := by
  cases c with
  | parent => decide
  | normal s => exact h.2
  | _ => exact h.elim

/-- What is read from a piece behind a separator can follow another component. -/
theorem follows_of_bodyComponent? {piece : List Char} {c : Component} (hpiece : '/' ∉ piece)
    (h : bodyComponent? piece = some c) : c.Follows := by
  unfold bodyComponent? at h
  split at h
  · cases h
  · cases h
  · obtain rfl := Option.some.inj h
    trivial
  · next hempty hcurrent hparent =>
    obtain rfl := Option.some.inj h
    refine ⟨fun hmem ↦ ?_, by rwa [String.toList_ofList]⟩
    simp only [List.mem_cons, List.not_mem_nil, or_false, ← String.toList_inj,
      String.toList_ofList] at hmem
    rcases hmem with hmem | hmem | hmem
    · exact hempty hmem
    · exact hcurrent hmem
    · exact hparent hmem

/-- Before the first separator, only an empty piece and `.` are read differently. -/
theorem headComponent?_eq {piece : List Char} (h : piece ≠ [] ∧ piece ≠ ['.']) (absolute : Bool) :
    headComponent? absolute piece = bodyComponent? piece := by
  unfold headComponent? bodyComponent?
  split
  · exact absurd rfl h.1
  · exact absurd rfl h.2
  · rfl
  · rfl

theorem ne_of_bodyComponent?_isSome {piece : List Char} (h : (bodyComponent? piece).isSome) :
    piece ≠ [] ∧ piece ≠ ['.'] := by
  constructor <;> rintro rfl <;> cases h

/-! ### Pieces in one list -/

/-- All pieces of a path. -/
def segments (p : Path) : List (List Char) := p.text.toList.splitOn '/'

theorem segments_eq (p : Path) : p.segments = p.pieces.head :: p.pieces.body := by
  rw [segments, pieces]
  split
  · exact absurd ‹p.text.toList.splitOn '/' = []› (List.splitOn_ne_nil _ _)
  · assumption

/-- A path is its pieces, put together again. -/
theorem joinPieces_segments (p : Path) : joinPieces p.segments = p := by
  rw [joinPieces, segments, List.intercalate_splitOn, String.ofList_toList]

theorem segments_joinPieces {l : List (List Char)} (hl : ∀ piece ∈ l, '/' ∉ piece) (hne : l ≠ []) :
    (joinPieces l).segments = l := by
  rw [segments, joinPieces, String.toList_ofList, List.splitOn_intercalate '/' hl hne]

/-- No piece holds a separator. -/
theorem not_mem_of_mem_segments {p : Path} {piece : List Char} (h : piece ∈ p.segments) :
    '/' ∉ piece :=
  not_mem_of_mem_splitOn h

theorem isAbsolute_iff {p : Path} :
    p.isAbsolute = true ↔ p.pieces.head = [] ∧ p.pieces.body ≠ [] := by
  have htext : p.text.toList = ['/'].intercalate (p.pieces.head :: p.pieces.body) := by
    rw [← segments_eq, segments, List.intercalate_splitOn]
  have hhead : '/' ∉ p.pieces.head :=
    not_mem_of_mem_segments (p := p) (segments_eq p ▸ List.mem_cons_self)
  rw [isAbsolute, htext, beq_iff_eq]
  generalize p.pieces.head = head at hhead ⊢
  generalize p.pieces.body = body
  rcases head with - | ⟨c, head⟩ <;> rcases body with - | ⟨second, body⟩
  · simp
  · simp [List.intercalate_cons_cons]
  all_goals
    have hc : c ≠ '/' := fun hc ↦ hhead (hc ▸ List.mem_cons_self)
    simpa [List.intercalate_cons_cons] using hc

/-- The components of pieces. -/
def componentsOf : List (List Char) → List Component
  | [] => []
  | head :: body =>
    (headComponent? (!body.isEmpty) head).toList ++ body.filterMap bodyComponent?

/-- The components of a path are those of its pieces: the first piece is read in its own way. -/
theorem components_eq (p : Path) : p.components = componentsOf p.segments := by
  rw [components, segments_eq, componentsOf]
  congr 2
  by_cases hhead : p.pieces.head = []
  · congr 1
    rw [Bool.eq_iff_iff, isAbsolute_iff]
    simp [hhead]
  · unfold headComponent?
    split <;> simp_all

/-- Only the empty path is empty at its only piece. -/
theorem segments_eq_singleton_nil {p : Path} : p.segments = [[]] ↔ p.text = "" := by
  constructor
  · intro h
    rw [← joinPieces_segments p, h]
    rfl
  · intro h
    rw [segments, h]
    rfl

theorem components_of_empty {p : Path} (hp : p.text = "") : p.components = [] := by
  rw [components_eq, segments_eq_singleton_nil.2 hp]
  rfl

theorem text_ne_empty {p : Path} (h : p.components ≠ []) : p.text ≠ "" :=
  mt components_of_empty h

/-- The first piece of a path counts unless the path is empty: it is the root, a dot or a name. -/
theorem headComponent?_isSome {p : Path} (hp : p.text ≠ "") :
    (headComponent? p.isAbsolute p.pieces.head).isSome := by
  by_cases hhead : p.pieces.head = []
  · have hbody : p.pieces.body ≠ [] := by
      intro hbody
      exact hp (segments_eq_singleton_nil.1 (by rw [segments_eq, hhead, hbody]))
    rw [hhead, isAbsolute_iff.2 ⟨hhead, hbody⟩]
    rfl
  · unfold headComponent?
    split <;> simp_all

/-- A path is absolute if its components start at the root. -/
theorem head?_components_eq_root_iff {p : Path} :
    p.components.head? = some .root ↔ p.isAbsolute = true := by
  by_cases hp : p.text = ""
  · rw [components_eq, segments_eq_singleton_nil.2 hp, isAbsolute, hp]
    decide
  · obtain ⟨first, hfirst⟩ := Option.isSome_iff_exists.1 (headComponent?_isSome hp)
    rw [components, hfirst, Option.toList_some, List.singleton_append, List.head?_cons,
      Option.some.injEq]
    unfold headComponent? at hfirst
    split at hfirst
    · split at hfirst
      · exact ⟨fun _ ↦ ‹_›, fun _ ↦ (Option.some.inj hfirst).symm⟩
      · cases hfirst
    all_goals
      obtain rfl := Option.some.inj hfirst
      simp_all [isAbsolute_iff]

/-! ### Joining -/

/-- A join keeps the pieces of both paths, less an empty one at the end of the first. -/
theorem segments_join {p q : Path} (hp : p.text ≠ "") (hq : q.isAbsolute = false) :
    ∃ head body, (p.segments = head :: body ∨ p.segments = head :: (body ++ [[]])) ∧
      (p.join q).segments = head :: (body ++ q.segments) := by
  rw [join, hq, if_neg Bool.false_ne_true]
  by_cases hlast : p.text.toList.getLast? = some '/'
  · obtain ⟨stem, hstem⟩ := List.getLast?_eq_some_iff.1 hlast
    obtain ⟨head, body, hsplit⟩ := List.exists_cons_of_ne_nil (List.splitOn_ne_nil '/' stem)
    refine ⟨head, body, .inr ?_, ?_⟩
    · rw [segments, hstem, List.splitOn_append_cons_self, hsplit, List.splitOn_nil,
        List.cons_append]
    · rw [if_pos (by simp [hlast]), segments, String.toList_append, hstem, List.append_assoc,
        List.singleton_append, List.splitOn_append_cons_self, hsplit, List.cons_append, segments]
  · obtain ⟨head, body, hsplit⟩ :=
      List.exists_cons_of_ne_nil (List.splitOn_ne_nil '/' p.text.toList)
    refine ⟨head, body, .inl hsplit, ?_⟩
    have hslash : ("/" : String).toList = ['/'] := rfl
    rw [if_neg (by simp [hlast, hp]), segments, String.toList_append, String.toList_append, hslash,
      List.append_assoc, List.singleton_append, List.splitOn_append_cons_self, hsplit,
      List.cons_append, segments]

theorem join_of_empty {p q : Path} (hp : p.text = "") (hq : q.isAbsolute = false) :
    p.join q = q := by
  rw [join, hq, if_neg Bool.false_ne_true, if_pos (by simp [hp]), hp, String.empty_append]

/-- **Joining appends components.** -/
theorem components_join {p q : Path} (hp : p.text ≠ "") (hq : q.isAbsolute = false) :
    (p.join q).components = p.components ++ q.segments.filterMap bodyComponent? := by
  obtain ⟨head, body, hsegments, hjoin⟩ := segments_join hp hq
  have hhead : ∀ rest : List (List Char), p.segments = head :: rest →
      headComponent? (!(body ++ q.segments).isEmpty) head =
        headComponent? (!rest.isEmpty) head := by
    intro rest hrest
    by_cases hnil : head = []
    · have hrest' : rest.isEmpty = false := by
        rw [List.isEmpty_eq_false_iff]
        rintro rfl
        rw [hnil] at hrest
        exact hp (segments_eq_singleton_nil.1 hrest)
      have hlong : (body ++ q.segments).isEmpty = false := by
        rw [List.isEmpty_eq_false_iff]
        exact List.append_ne_nil_of_right_ne_nil _ (List.splitOn_ne_nil _ _)
      rw [hrest', hlong]
    · unfold headComponent?
      split <;> simp_all
  rw [components_eq, components_eq, hjoin, componentsOf, List.filterMap_append, ← List.append_assoc]
  congr 1
  rcases hsegments with h | h
  · rw [h, componentsOf, hhead _ h]
  · have hempty : [([] : List Char)].filterMap bodyComponent? = [] := rfl
    rw [h, componentsOf, hhead _ h, List.filterMap_append, hempty, List.append_nil]

/-- What a relative path adds: its components, but for a leading `.`. -/
theorem filterMap_segments {q : Path} (hq : q.isAbsolute = false) :
    q.segments.filterMap bodyComponent? = q.components.filter (· != .current) := by
  have hbody : (q.pieces.body.filterMap bodyComponent?).filter (· != .current) =
      q.pieces.body.filterMap bodyComponent? := by
    refine List.filter_eq_self.2 fun c hc ↦ ?_
    obtain ⟨piece, hmem, hpiece⟩ := List.mem_filterMap.1 hc
    have hfollows := follows_of_bodyComponent? (not_mem_of_mem_segments (p := q)
      (segments_eq q ▸ List.mem_cons_of_mem _ hmem)) hpiece
    cases c with
    | current => exact hfollows.elim
    | _ => rfl
  have hhead : (bodyComponent? q.pieces.head).toList =
      (headComponent? q.isAbsolute q.pieces.head).toList.filter (· != .current) := by
    rw [hq]
    unfold headComponent? bodyComponent?
    split <;> rfl
  rw [segments_eq, components, List.filter_append, hbody, ← hhead, List.filterMap_cons]
  cases bodyComponent? q.pieces.head <;> rfl

/-! ### Single components -/

theorem segments_text {c : Component} (h : c.Follows) : segments ⟨c.text⟩ = [c.text.toList] :=
  List.splitOn_eq_singleton (not_mem_text_of_follows h)

theorem isAbsolute_text {c : Component} (h : c.Follows) : isAbsolute ⟨c.text⟩ = false := by
  rw [Bool.eq_false_iff, ne_eq, isAbsolute, beq_iff_eq]
  intro hhead
  exact not_mem_text_of_follows h (List.mem_of_mem_head? hhead)

theorem segments_name {s : String} (h : IsName s) : segments ⟨s⟩ = [s.toList] :=
  segments_text (c := .normal s) h

theorem isAbsolute_name {s : String} (h : IsName s) : isAbsolute ⟨s⟩ = false :=
  isAbsolute_text (c := .normal s) h

/-- Joining one component appends it. -/
theorem components_join_text {c : Component} (p : Path) (h : c.Follows) :
    (p.join ⟨c.text⟩).components = p.components ++ [c] := by
  have hpiece := bodyComponent?_of_follows h
  by_cases hp : p.text = ""
  · rw [join_of_empty hp (isAbsolute_text h), components_of_empty hp, components_eq,
      segments_text h,
      componentsOf, headComponent?_eq (ne_of_bodyComponent?_isSome (by rw [hpiece]; rfl)), hpiece]
    rfl
  · rw [components_join hp (isAbsolute_text h), segments_text h]
    simp [hpiece]

theorem components_join_name {s : String} (p : Path) (h : IsName s) :
    (p.join ⟨s⟩).components = p.components ++ [.normal s] :=
  components_join_text (c := .normal s) p h

theorem ofComponents_concat (cs : List Component) (c : Component) :
    ofComponents (cs ++ [c]) = (ofComponents cs).join ⟨c.text⟩ := by
  rw [ofComponents, List.foldl_append]
  rfl

/-! ### Components that can be spelled -/

/-- Whether components can be spelled plainly: all follow a separator, but for a root that leads. -/
def Spellable (cs : List Component) : Prop :=
  ∃ lead rest, cs = lead ++ rest ∧ (lead = [] ∨ lead = [.root]) ∧ ∀ c ∈ rest, c.Follows

/-- **What is spelled plainly reads back as it was.** -/
theorem components_ofComponents {cs : List Component} (h : Spellable cs) :
    (ofComponents cs).components = cs := by
  obtain ⟨lead, rest, rfl, hlead, hrest⟩ := h
  induction rest using List.reverseRecOn with
  | nil => rcases hlead with rfl | rfl <;> rfl
  | append_singleton rest c ih =>
    rw [← List.append_assoc, ofComponents_concat,
      components_join_text _ (hrest c (List.mem_append_right _ List.mem_cons_self)),
      ih fun c hc ↦ hrest c (List.mem_append_left _ hc)]

theorem Spellable.append {cs more : List Component} (h : Spellable cs)
    (hmore : ∀ c ∈ more, c.Follows) : Spellable (cs ++ more) := by
  obtain ⟨lead, rest, rfl, hlead, hrest⟩ := h
  refine ⟨lead, rest ++ more, List.append_assoc _ _ _, hlead, fun c hc ↦ ?_⟩
  exact (List.mem_append.1 hc).elim (hrest c) (hmore c)

theorem follows_of_mem_names {names : List String} (hnames : ∀ s ∈ names, IsName s)
    (c : Component) (hc : c ∈ names.map Component.normal) : c.Follows := by
  obtain ⟨s, hs, rfl⟩ := List.mem_map.1 hc
  exact hnames s hs

/-- What can be spelled with a last component can be spelled without it. -/
theorem Spellable.of_concat {cs : List Component} {c : Component} (h : Spellable (cs ++ [c])) :
    Spellable cs := by
  obtain ⟨lead, rest, heq, hlead, hrest⟩ := h
  rcases List.eq_nil_or_concat rest with rfl | ⟨rest, last, rfl⟩
  · -- only a root was there
    have hcs : cs = [] := by
      rcases hlead with rfl | rfl
      · simp at heq
      · simpa using congrArg List.dropLast heq
    exact ⟨[], [], hcs, .inl rfl, by simp⟩
  · rw [List.concat_eq_append, ← List.append_assoc] at heq
    exact ⟨lead, rest, (List.append_inj' heq rfl).1, hlead, fun c hc ↦
      hrest c (by simp [hc])⟩

/-- What a path is made of. -/
theorem exists_components_eq (p : Path) :
    ∃ lead rest, p.components = lead ++ rest ∧ (lead = [] ∨ lead = [.root] ∨ lead = [.current]) ∧
      ∀ c ∈ rest, c.Follows := by
  have hfollows : ∀ piece ∈ p.segments, ∀ c, bodyComponent? piece = some c → c.Follows :=
    fun piece hmem c ↦ follows_of_bodyComponent? (not_mem_of_mem_segments hmem)
  rw [segments_eq] at hfollows
  have hbody : ∀ c ∈ p.pieces.body.filterMap bodyComponent?, c.Follows := fun c hc ↦ by
    obtain ⟨piece, hmem, hpiece⟩ := List.mem_filterMap.1 hc
    exact hfollows piece (List.mem_cons_of_mem _ hmem) c hpiece
  by_cases hhead : p.pieces.head ≠ [] ∧ p.pieces.head ≠ ['.']
  · refine ⟨[], p.components, rfl, .inl rfl, fun c hc ↦ ?_⟩
    rw [components, headComponent?_eq hhead, List.mem_append] at hc
    rcases hc with hc | hc
    · exact hfollows _ List.mem_cons_self c (Option.mem_toList.1 hc)
    · exact hbody c hc
  · refine ⟨(headComponent? p.isAbsolute p.pieces.head).toList, _, rfl, ?_, hbody⟩
    rw [not_and_or, not_not, not_not] at hhead
    rcases hhead with hhead | hhead <;> rw [hhead]
    · cases p.isAbsolute
      · exact .inl rfl
      · exact .inr (.inl rfl)
    · exact .inr (.inr rfl)

/-- Names among the components of a path name something. -/
theorem isName_of_mem_components {p : Path} {s : String} (h : .normal s ∈ p.components) :
    IsName s := by
  obtain ⟨lead, rest, heq, hlead, hrest⟩ := exists_components_eq p
  rw [heq, List.mem_append] at h
  rcases h with h | h
  · rcases hlead with rfl | rfl | rfl <;> simp at h
  · exact hrest _ h

/-! ### Clean components -/

/-- What cleaning can do with one more component: nothing, take off a name, or keep it. -/
theorem cleanStep_cases (reversed : List Component) (c : Component) :
    cleanStep reversed c = reversed ∨
      (∃ s before, reversed = .normal s :: before ∧ cleanStep reversed c = before) ∨
      cleanStep reversed c = c :: reversed := by
  unfold cleanStep
  split
  · exact .inl rfl
  · exact .inl rfl
  · exact .inr (.inl ⟨_, _, rfl, rfl⟩)
  · exact .inr (.inr rfl)

/-- A step of cleaning leaves components that can be spelled. -/
theorem spellable_cleanStep {reversed : List Component} {c : Component}
    (h : Spellable reversed.reverse) (hc : c.Follows) :
    Spellable (cleanStep reversed c).reverse := by
  rcases cleanStep_cases reversed c with hstep | ⟨s, before, rfl, hstep⟩ | hstep <;> rw [hstep]
  · exact h
  · rw [List.reverse_cons] at h
    exact h.of_concat
  · rw [List.reverse_cons]
    exact h.append fun c' hc' ↦ List.mem_singleton.1 hc' ▸ hc

/-- What is left of a path can be spelled. -/
theorem spellable_cleanComponents (p : Path) : Spellable (cleanComponents p.components) := by
  obtain ⟨lead, rest, hcomponents, hlead, hrest⟩ := exists_components_eq p
  have hstart : Spellable (lead.foldl cleanStep []).reverse := by
    rcases hlead with rfl | rfl | rfl
    · exact ⟨[], [], rfl, .inl rfl, by simp⟩
    · exact ⟨[.root], [], rfl, .inr rfl, by simp⟩
    · exact ⟨[], [], rfl, .inl rfl, by simp⟩
  rw [cleanComponents, hcomponents, List.foldl_append]
  exact List.foldlRecOn (motive := fun reversed ↦ Spellable reversed.reverse) rest cleanStep hstart
    fun reversed h c hc ↦ spellable_cleanStep h (hrest c hc)

/-- Cleaning leaves no `.`. -/
theorem current_not_mem_cleanComponents (p : Path) : .current ∉ cleanComponents p.components := by
  obtain ⟨lead, rest, heq, hlead, hrest⟩ := spellable_cleanComponents p
  rw [heq, List.mem_append]
  rintro (hmem | hmem)
  · rcases hlead with rfl | rfl <;> simp at hmem
  · exact hrest _ hmem

/-- Components on which cleaning does nothing stay so under one more step. -/
theorem settled_cleanStep {reversed : List Component} (c : Component)
    (h : reversed.reverse.foldl cleanStep [] = reversed) :
    (cleanStep reversed c).reverse.foldl cleanStep [] = cleanStep reversed c := by
  rcases cleanStep_cases reversed c with hstep | ⟨s, before, rfl, hstep⟩ | hstep
  · rw [hstep, h]
  · rw [hstep]
    rw [List.reverse_cons, List.foldl_append] at h
    exact (List.cons.inj h).2
  · rw [hstep, List.reverse_cons, List.foldl_append, h]
    exact hstep

/-- **Cleaning twice is cleaning once.** -/
theorem cleanComponents_idem (cs : List Component) :
    cleanComponents (cleanComponents cs) = cleanComponents cs := by
  rw [cleanComponents, cleanComponents]
  exact congrArg List.reverse
    (List.foldlRecOn (motive := fun reversed ↦ reversed.reverse.foldl cleanStep [] = reversed)
      cs cleanStep rfl fun _ h c _ ↦ settled_cleanStep c h)

/-- Cleaning keeps names at the end. -/
theorem cleanComponents_append_names (cs : List Component) (names : List String) :
    cleanComponents (cs ++ names.map .normal) = cleanComponents cs ++ names.map .normal := by
  induction names using List.reverseRecOn with
  | nil => simp
  | append_singleton names s ih =>
    have hlast : ∀ (cs : List Component) (s : String),
        cleanComponents (cs ++ [.normal s]) = cleanComponents cs ++ [.normal s] := fun cs s ↦ by
      rw [cleanComponents, cleanComponents, List.foldl_append, List.foldl_cons, List.foldl_nil,
        ← List.reverse_cons]
      rfl
    rw [List.map_append, ← List.append_assoc, List.map_singleton, hlast, ih, List.append_assoc]

theorem cleanComponents_names (names : List String) :
    cleanComponents (names.map .normal) = names.map .normal :=
  cleanComponents_append_names [] names

/-- The components of a clean path. -/
theorem components_clean (p : Path) :
    p.clean.components =
      if cleanComponents p.components = [] then [.current] else cleanComponents p.components := by
  have hspellable := spellable_cleanComponents p
  rw [clean]
  split
  · next h =>
    rw [if_pos h]
    rfl
  · next h =>
    rw [if_neg h]
    exact components_ofComponents hspellable

/-- A clean path is `.` if nothing is left. -/
theorem clean_eq_dot_iff {p : Path} : p.clean = ⟨"."⟩ ↔ cleanComponents p.components = [] := by
  constructor
  · intro h
    by_contra hne
    have hcomponents := components_clean p
    rw [if_neg hne, h] at hcomponents
    refine current_not_mem_cleanComponents p ?_
    rw [← hcomponents]
    decide
  · intro h
    rw [clean, h]

/-! ### Names on the way down -/

/-- The path down some names. -/
def ofNames (names : List String) : Path := ofComponents (names.map .normal)

section Names

variable {names : List String}

theorem components_ofNames (hnames : ∀ s ∈ names, IsName s) :
    (ofNames names).components = names.map .normal :=
  components_ofComponents ⟨[], names.map .normal, rfl, .inl rfl, follows_of_mem_names hnames⟩

/-- A path that consists of names is cleaned to the spelling with single separators. -/
theorem clean_eq_ofNames {p : Path} (h : p.components = names.map .normal) (hne : names ≠ []) :
    p.clean = ofNames names := by
  rw [clean, h, cleanComponents_names]
  split
  · next hnil => exact absurd (List.map_eq_nil_iff.1 hnil) hne
  · rfl

/-- The pieces of a path down some names are the names. -/
theorem segments_ofNames (hnames : ∀ s ∈ names, IsName s) (hne : names ≠ []) :
    (ofNames names).segments = names.map String.toList := by
  induction names using List.reverseRecOn with
  | nil => exact absurd rfl hne
  | append_singleton names s ih =>
    have hs : Component.Follows (.normal s) := hnames s (List.mem_append_right _ List.mem_cons_self)
    have hnames' : ∀ t ∈ names, IsName t := fun t ht ↦ hnames t (List.mem_append_left _ ht)
    rw [ofNames, List.map_append, List.map_singleton, ofComponents_concat, ← ofNames]
    by_cases hempty : names = []
    · rw [hempty, join_of_empty (p := ofNames []) rfl (isAbsolute_text hs), segments_text hs]
      rfl
    · have hsegments := ih hnames' hempty
      have hnil : [] ∉ (ofNames names).segments := by
        rw [hsegments]
        intro hmem
        obtain ⟨t, ht, hnil⟩ := List.mem_map.1 hmem
        exact (hnames' t ht).toList_ne_nil hnil
      have htext : (ofNames names).text ≠ "" := fun htext ↦
        hnil (segments_eq_singleton_nil.2 htext ▸ List.mem_cons_self)
      obtain ⟨head, body, hcases, hjoin⟩ := segments_join htext (isAbsolute_text hs)
      rcases hcases with hcases | hcases
      · rw [hjoin, ← List.cons_append, ← hcases, hsegments, segments_text hs, List.map_append]
        rfl
      · exact absurd (hcases ▸ List.mem_cons_of_mem _ (List.mem_append_right _ List.mem_cons_self))
          hnil

/-- Trimming takes off pieces that do not count. -/
theorem exists_eq_trimEnd_append (l : List (List Char)) :
    ∃ dropped, l = trimEnd l ++ dropped ∧ ∀ piece ∈ dropped, bodyComponent? piece = none := by
  refine ⟨(l.reverse.takeWhile fun piece ↦ (bodyComponent? piece).isNone).reverse, ?_, ?_⟩
  · rw [trimEnd, ← List.reverse_append, List.takeWhile_append_dropWhile, List.reverse_reverse]
  · intro piece hpiece
    have hnone := List.mem_takeWhile_imp (p := fun piece ↦ (bodyComponent? piece).isNone)
      (List.mem_reverse.1 hpiece)
    exact Option.isNone_iff_eq_none.1 hnone

/-- Nothing is trimmed where every piece counts. -/
theorem trimEnd_eq_self {l : List (List Char)} (hl : ∀ piece ∈ l, (bodyComponent? piece).isSome) :
    trimEnd l = l := by
  obtain ⟨dropped, heq, hdropped⟩ := exists_eq_trimEnd_append l
  have hnil : dropped = [] := List.eq_nil_iff_forall_not_mem.2 fun piece hpiece ↦ by
    have hsome := hl piece (heq ▸ List.mem_append_right _ hpiece)
    rw [hdropped piece hpiece] at hsome
    cases hsome
  rw [hnil, List.append_nil] at heq
  exact heq.symm

theorem filterMap_trimEnd (l : List (List Char)) :
    (trimEnd l).filterMap bodyComponent? = l.filterMap bodyComponent? := by
  obtain ⟨dropped, heq, hdropped⟩ := exists_eq_trimEnd_append l
  conv_rhs => rw [heq]
  rw [List.filterMap_append, List.filterMap_eq_nil_iff.2 hdropped, List.append_nil]

/-- **The directory of a file is spelled as the file is.** -/
theorem parent?_ofNames_concat {s : String} (hnames : ∀ t ∈ names ++ [s], IsName t) :
    (ofNames (names ++ [s])).parent? = some (ofNames names) := by
  have hsegments :=
    segments_ofNames hnames (List.append_ne_nil_of_right_ne_nil _ (List.cons_ne_nil _ _))
  rw [segments_eq, List.map_append, List.map_singleton] at hsegments
  rw [parent?]
  cases names with
  | nil =>
    obtain ⟨hhead, hbody⟩ := List.cons.inj hsegments
    rw [hhead, hbody]
    exact if_neg fun hs ↦
      (hnames s List.mem_cons_self).toList_ne_nil (List.isEmpty_iff.1 hs)
  | cons n names =>
    obtain ⟨hhead, hbody⟩ : _ ∧ (ofNames (n :: names ++ [s])).pieces.body =
        names.map String.toList ++ [s.toList] := List.cons.inj hsegments
    have hnames' : ∀ t ∈ n :: names, IsName t := fun t ht ↦ hnames t (List.mem_append_left _ ht)
    have hcounts : ∀ l : List String, (∀ t ∈ l, t ∈ names ++ [s]) →
        trimEnd (l.map String.toList) = l.map String.toList := fun l hl ↦
      trimEnd_eq_self fun piece hpiece ↦ by
        obtain ⟨t, ht, rfl⟩ := List.mem_map.1 hpiece
        rw [bodyComponent?_of_isName (hnames t (List.mem_cons_of_mem _ (hl t ht)))]
        rfl
    have hall : trimEnd (names.map String.toList ++ [s.toList]) =
        names.map String.toList ++ [s.toList] := by
      rw [← List.map_singleton, ← List.map_append]
      exact hcounts _ fun _ ht ↦ ht
    have hbefore := hcounts names fun _ ht ↦ List.mem_append_left _ ht
    rw [hhead, hbody, hall, List.reverse_append, List.reverse_singleton, List.singleton_append]
    dsimp only
    rw [List.reverse_reverse, hbefore, Pieces.path, if_neg]
    · rw [← joinPieces_segments (ofNames (n :: names)),
        segments_ofNames hnames' (List.cons_ne_nil _ _), List.map_cons]
    · exact fun habs ↦ (hnames' n List.mem_cons_self).toList_ne_nil (List.isEmpty_iff.1 habs.2)

end Names

/-! ### Parts -/

theorem extension?_congr {p q : Path} (h : p.components.getLast? = q.components.getLast?) :
    p.extension? = q.extension? := by
  rw [extension?, extension?, fileName?, fileName?, h]

/-- To drop pieces up to some component drops as many components. -/
theorem filterMap_dropComponents (n : Nat) (l : List (List Char)) :
    (dropComponents n l).filterMap bodyComponent? = (l.filterMap bodyComponent?).drop n := by
  fun_induction dropComponents n l with
  | case1 l =>
    have htake : (l.takeWhile fun piece ↦ (bodyComponent? piece).isNone).filterMap bodyComponent? =
        [] :=
      List.filterMap_eq_nil_iff.2 fun piece hpiece ↦ Option.isNone_iff_eq_none.1
        (List.mem_takeWhile_imp (p := fun piece ↦ (bodyComponent? piece).isNone) hpiece)
    conv_rhs =>
      rw [← List.takeWhile_append_dropWhile (p := fun piece ↦ (bodyComponent? piece).isNone)
        (l := l), List.filterMap_append, htake]
    rfl
  | case2 n => rfl
  | case3 n piece rest hnone ih =>
    rw [ih, List.filterMap_cons_none (Option.isNone_iff_eq_none.1 hnone)]
  | case4 n piece rest hsome ih =>
    obtain ⟨c, hc⟩ := Option.ne_none_iff_exists'.1 (mt Option.isNone_iff_eq_none.2 hsome)
    rw [ih, List.filterMap_cons_some hc, List.drop_succ_cons]

/-- What follows the dropped components starts with one that counts. -/
theorem isSome_head_dropComponents (n : Nat) (l : List (List Char)) :
    ∀ piece ∈ (dropComponents n l).head?, (bodyComponent? piece).isSome := by
  fun_induction dropComponents n l with
  | case1 l =>
    intro piece hpiece
    have hcounts := List.head?_dropWhile_not (fun piece ↦ (bodyComponent? piece).isNone) l
    rw [Option.mem_def.1 hpiece] at hcounts
    simpa using hcounts
  | case2 n =>
    intro piece hpiece
    cases hpiece
  | case3 n piece rest hnone ih => exact ih
  | case4 n piece rest hsome ih => exact ih

theorem dropComponents_suffix (n : Nat) (l : List (List Char)) : dropComponents n l <:+ l := by
  fun_induction dropComponents n l with
  | case1 l => exact List.dropWhile_suffix _
  | case2 n => exact List.suffix_refl _
  | case3 n piece rest hnone ih => exact ih.trans (List.suffix_cons _ _)
  | case4 n piece rest hsome ih => exact ih.trans (List.suffix_cons _ _)

theorem isSome_head_trimEnd {l : List (List Char)}
    (h : ∀ piece ∈ l.head?, (bodyComponent? piece).isSome) :
    ∀ piece ∈ (trimEnd l).head?, (bodyComponent? piece).isSome := by
  intro piece hpiece
  obtain ⟨dropped, heq, -⟩ := exists_eq_trimEnd_append l
  refine h piece ?_
  rw [heq, List.head?_append, Option.mem_def.1 hpiece]
  rfl

/-- The components of pieces of which the first counts. -/
theorem components_joinPieces {l : List (List Char)} (hl : ∀ piece ∈ l, '/' ∉ piece)
    (hhead : ∀ piece ∈ l.head?, (bodyComponent? piece).isSome) :
    (joinPieces l).components = l.filterMap bodyComponent? := by
  cases l with
  | nil => rfl
  | cons piece rest =>
    have hpiece := hhead piece rfl
    rw [components_eq, segments_joinPieces hl (List.cons_ne_nil _ _), componentsOf,
      headComponent?_eq (ne_of_bodyComponent?_isSome hpiece), List.filterMap_cons]
    cases bodyComponent? piece <;> rfl

/-- **Stripping a base takes its components off.** -/
theorem exists_stripBase? {p base : Path} {cs : List Component}
    (h : p.components = base.components ++ cs) (hbase : base.components ≠ []) :
    ∃ q, p.stripBase? base = some q ∧ q.components = cs := by
  have hstarts : p.startsWith base = true := by
    rw [startsWith, List.isPrefixOf_iff_prefix, h]
    exact List.prefix_append _ _
  obtain ⟨n, hn⟩ := Nat.exists_eq_succ_of_ne_zero (mt List.length_eq_zero_iff.1 hbase)
  have hbody : ∀ piece ∈ p.pieces.body, '/' ∉ piece := fun piece hpiece ↦
    not_mem_of_mem_segments (p := p) (segments_eq p ▸ List.mem_cons_of_mem _ hpiece)
  -- the base is not empty, so the piece before the first separator is part of it
  obtain ⟨first, hfirst⟩ : ∃ first, headComponent? p.isAbsolute p.pieces.head = some first := by
    rw [← Option.isSome_iff_exists]
    refine headComponent?_isSome fun htext ↦ hbase ?_
    rw [components_of_empty htext] at h
    exact (List.append_eq_nil_iff.1 h.symm).1
  refine ⟨joinPieces (trimEnd (dropComponents n p.pieces.body)), ?_, ?_⟩
  · simp [stripBase?, hstarts, hn, hfirst]
  · rw [components_joinPieces, filterMap_trimEnd, filterMap_dropComponents]
    · have hdrop := congrArg (List.drop (n + 1)) h
      rwa [components, hfirst, ← Nat.succ_eq_add_one, ← hn, List.drop_left, hn] at hdrop
    · obtain ⟨dropped, heq, -⟩ := exists_eq_trimEnd_append (dropComponents n p.pieces.body)
      exact fun piece hpiece ↦ hbody piece ((dropComponents_suffix n _).subset
        (heq ▸ List.mem_append_left _ hpiece))
    · exact isSome_head_trimEnd (isSome_head_dropComponents n _)

end Path

end JavaDeps
