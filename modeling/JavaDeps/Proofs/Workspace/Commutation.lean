import JavaDeps.Proofs.Workspace.Refinement
import Mathlib.Data.List.Forall2
import Mathlib.Data.List.Pairwise

/-!
# Recordings commute

Recordings of different files may be made in any order: they amount to one table
(`sameTable_of_perm`). **Indices whose histories amount to one table answer alike**, with one
reservation: among the owners of a type, the index keeps whichever spelling of a directory came in
first, so owners agree as paths and not as texts. `samePaths_ownersOf` says so, and that each
spelling was recorded is `spells_of_mem_ownersOf`.
-/

namespace JavaDeps

/-- Two sets in order with the same members are one set. -/
theorem SortedSet.eq_of_mem_iff {α : Type} [Ord α] [Std.TransOrd α] {s t : SortedSet α}
    (h : ∀ a, a ∈ s ↔ a ∈ t) : s = t :=
  SortedSet.ext (eq_of_increasing s.increasing t.increasing h)

namespace Workspace

/-! ### Histories that amount to one table -/

/-- Whether two histories amount to one table: every path has the same record at the end of both. -/
def SameTable (history history' : List Event) : Prop :=
  ∀ d path, recorded? history d path = recorded? history' d path

/-- Whether two events are recordings of different files. A clearing is apart from nothing. -/
def Event.Apart : Event → Event → Prop
  | .record d path _, .record e path' _ => ¬ (d.same e = true ∧ path.same path' = true)
  | _, _ => False

instance : Std.Symm Event.Apart where
  symm a b h := by
    cases a with
    | clear => exact h.elim
    | record d path r =>
      cases b with
      | clear => exact h.elim
      | record e path' s => exact fun h' ↦ h ⟨same_comm.trans h'.1, same_comm.trans h'.2⟩

/-- Recordings of different files commute. -/
theorem Event.Apart.update_comm {a b : Event} (h : a.Apart b) (d path : Path)
    (known : Option FileRecord) :
    b.update d path (a.update d path known) = a.update d path (b.update d path known) := by
  cases a with
  | clear => exact h.elim
  | record e path' r =>
    cases b with
    | clear => exact h.elim
    | record e' path'' s =>
      simp only [Event.update]
      by_cases ha : e.same d = true ∧ path'.same path = true
      · have hb : ¬ (e'.same d = true ∧ path''.same path = true) := fun hb ↦
          h ⟨(same_trans ha.1).trans (same_comm.trans hb.1),
            (same_trans ha.2).trans (same_comm.trans hb.2)⟩
        rw [if_neg hb, if_neg hb]
      · rw [if_neg ha, if_neg ha]

/-- **Recordings of different files amount to one table in any order.** -/
theorem sameTable_of_perm {history events events' : List Event}
    (happart : events.Pairwise Event.Apart) (hperm : events.Perm events') :
    SameTable (history ++ events) (history ++ events') := by
  intro d path
  rw [recorded?, recorded?, List.foldl_append, List.foldl_append]
  refine hperm.foldl_eq' (fun a ha b hb known ↦ ?_) _
  by_cases hab : a = b
  · rw [hab]
  · exact (happart.forall ha hb hab).update_comm d path known

/-! ### What one table says -/

namespace SameTable

variable {history history' : List Event} {d : Path} {name : String}

theorem recordedIn (h : SameTable history history') {r : FileRecord} :
    RecordedIn history d r ↔ RecordedIn history' d r := by
  simp only [RecordedIn, h d]

theorem declares (h : SameTable history history') :
    Declares history d name ↔ Declares history' d name := by
  simp only [Declares, h.recordedIn]

/-- What the files of a directory refer to is said by the table. -/
theorem isReferenced (h : SameTable history history') {symbols : ReferencedSymbols}
    (hsymbols : IsReferenced history d symbols) : IsReferenced history' d symbols where
  package := by
    have := hsymbols.package
    simpa only [MainPackage, h d] using this
  packages name := by
    rw [hsymbols.packages]
    simp only [OwnPackage, h.recordedIn]
  qualified symbol := by
    rw [hsymbols.qualified]
    simp only [NamesInFull, h.recordedIn]
  simpleNames name := by
    rw [hsymbols.simpleNames]
    simp only [NamesSimply, h.recordedIn, h.declares]
  wildcardPackages name := by
    rw [hsymbols.wildcardPackages]
    simp only [WildcardPackage, h.recordedIn]
  reflective symbol := by
    rw [hsymbols.reflective]
    simp only [NamesInLiteral, h.recordedIn]

end SameTable

/-- What a directory refers to is determined. -/
theorem IsReferenced.unique {history : List Event} {d : Path} {symbols symbols' : ReferencedSymbols}
    (h : IsReferenced history d symbols) (h' : IsReferenced history d symbols') :
    symbols = symbols' := by
  obtain ⟨package, packages, qualified, simpleNames, wildcardPackages, reflective⟩ := symbols
  obtain ⟨package', packages', qualified', simpleNames', wildcardPackages', reflective'⟩ := symbols'
  congr 1
  · exact h.package.unique h'.package
  · exact SortedSet.eq_of_mem_iff fun name ↦ (h.packages name).trans (h'.packages name).symm
  · exact SortedSet.eq_of_mem_iff fun name ↦ (h.qualified name).trans (h'.qualified name).symm
  · exact SortedSet.eq_of_mem_iff fun name ↦ (h.simpleNames name).trans (h'.simpleNames name).symm
  · exact SortedSet.eq_of_mem_iff fun name ↦
      (h.wildcardPackages name).trans (h'.wildcardPackages name).symm
  · exact SortedSet.eq_of_mem_iff fun name ↦ (h.reflective name).trans (h'.reflective name).symm

/-! ### Paths listed alike -/

/-- Whether lists hold the same paths in the same order, in some spelling. -/
def SamePaths (ps qs : List Path) : Prop := List.Forall₂ (fun p q ↦ p.same q = true) ps qs

/-- What a list of paths spells in increasing order is determined. -/
theorem Lists.samePaths {ps qs : List Path} {kind : Path → Prop} (hp : Lists ps kind)
    (hq : Lists qs kind) : SamePaths ps qs := by
  have hsubset : ∀ {ps qs : List Path}, Lists ps kind → Lists qs kind →
      ∀ c ∈ ps.map Path.components, c ∈ qs.map Path.components := by
    intro ps qs hp hq c hc
    obtain ⟨p, hmem, rfl⟩ := List.mem_map.1 hc
    obtain ⟨q, hq, hsame⟩ := (hq.mem_iff p).1 ((hp.mem_iff p).2 ⟨p, hmem, by simp [Path.same]⟩)
    exact List.mem_map.2 ⟨q, hq, by simpa [Path.same] using hsame⟩
  have heq : ps.map Path.components = qs.map Path.components :=
    eq_of_increasing (List.pairwise_map.2 hp.increasing) (List.pairwise_map.2 hq.increasing)
      fun c ↦ ⟨hsubset hp hq c, hsubset hq hp c⟩
  have hforall : List.Forall₂ (· = ·) (ps.map Path.components) (qs.map Path.components) := by
    rw [heq]
    exact List.forall₂_refl _
  rw [List.forall₂_map_left_iff, List.forall₂_map_right_iff] at hforall
  exact hforall.imp fun p q h ↦ by simpa [Path.same] using h

/-! ### Indices that answer alike -/

/-- Whether two answers to the question who declares a type are the same. -/
inductive Lookup.Same : Lookup → Lookup → Prop
  | found {p q : Path} (h : p.same q = true) : Same (.found p) (.found q)
  | ambiguous {ps qs : List Path} (h : SamePaths ps qs) : Same (.ambiguous ps) (.ambiguous qs)
  | missing : Same .missing .missing

/-- Whether two conflicts are the same: they are about one symbol, and name the same directories,
whatever their spelling. -/
def SameConflict (a b : String × List Path) : Prop := a.1 = b.1 ∧ SamePaths a.2 b.2

/-- Whether two indices answer alike. What they say may differ in the spelling of the directories
that declare a type. -/
structure Index.Alike (index index' : Index) : Prop where
  lookup : ∀ symbol, (index.lookup symbol).Same (index'.lookup symbol)
  conflicts : ∀ d, List.Forall₂ SameConflict (index.conflictsIn d) (index'.conflictsIn d)
  referenced : ∀ d, index.referenced? d = index'.referenced? d

section Alike

variable {index index' : Index} {history history' : List Event}

/-- Indices that track the same table name the same owners, if not in the same spelling. -/
theorem samePaths_ownersOf (h : Tracks index history) (h' : Tracks index' history')
    (htable : SameTable history history') (symbol : String) :
    SamePaths (index.ownersOf symbol) (index'.ownersOf symbol) := by
  have hdeclares : (Declares history' · symbol) = (Declares history · symbol) :=
    funext fun d ↦ propext htable.declares.symm
  exact (h.lists_ownersOf symbol).samePaths (hdeclares ▸ h'.lists_ownersOf symbol)

theorem declared_packageAt (h : Tracks index history) (h' : Tracks index' history')
    (htable : SameTable history history') (d : Path) :
    (index.packageAt d).declared = (index'.packageAt d).declared :=
  SortedSet.eq_of_mem_iff fun symbol ↦ by
    rw [h.mem_declared_packageAt, h'.mem_declared_packageAt, htable.declares]

/-- **Indices whose histories amount to one table answer alike.** -/
theorem Tracks.alike (h : Tracks index history) (h' : Tracks index' history')
    (htable : SameTable history history') : index.Alike index' where
  lookup symbol := by
    have howners := samePaths_ownersOf h h' htable symbol
    rw [Index.lookup, Index.lookup]
    generalize index.ownersOf symbol = ps at howners ⊢
    generalize index'.ownersOf symbol = qs at howners ⊢
    cases howners with
    | nil => exact .missing
    | cons hfirst hrest =>
      cases hrest with
      | nil => exact .found hfirst
      | cons hsecond hrest => exact .ambiguous (.cons hfirst (.cons hsecond hrest))
  conflicts d := by
    have howners := samePaths_ownersOf h h' htable
    have hfilter : ∀ symbol, decide (1 < (index.ownersOf symbol).length) =
        decide (1 < (index'.ownersOf symbol).length) := fun symbol ↦ by
      rw [(howners symbol).length_eq]
    rw [conflictsIn_eq, conflictsIn_eq, declared_packageAt h h' htable, funext hfilter,
      List.forall₂_map_left_iff, List.forall₂_map_right_iff, List.forall₂_same]
    exact fun symbol _ ↦ ⟨rfl, howners symbol⟩
  referenced d := by
    rcases hsymbols : index.referenced? d with - | symbols
    · have hno : ¬ ∃ r, RecordedIn history d r := (h.referenced?_eq_none_iff d).1 hsymbols
      simp only [htable.recordedIn] at hno
      exact ((h'.referenced?_eq_none_iff d).2 hno).symm
    · rcases hsymbols' : index'.referenced? d with - | symbols'
      · have hno : ¬ ∃ r, RecordedIn history' d r := (h'.referenced?_eq_none_iff d).1 hsymbols'
        simp only [← htable.recordedIn] at hno
        rw [(h.referenced?_eq_none_iff d).2 hno] at hsymbols
        cases hsymbols
      · rw [(htable.isReferenced (h.isReferenced hsymbols)).unique (h'.isReferenced hsymbols')]

end Alike

/-! ### Spellings -/

/-- Whether a history records something in a directory of this spelling, at any time. -/
def Spells (history : List Event) (d : Path) : Prop :=
  ∃ path r, Event.record d path r ∈ history

/-- Whether a table of owners spells directories only in ways that a property allows. -/
def SpelledBy (allowed : Path → Prop) (owners : SortedMap String (SortedSet Path)) : Prop :=
  ∀ symbol ds, owners.get? symbol = some ds → ∀ d ∈ ds.toList, allowed d

section SpelledBy

variable {allowed : Path → Prop} {owners : SortedMap String (SortedSet Path)} {d : Path}

/-- To own a symbol keeps owners in allowed spellings, if the new one is allowed. -/
theorem SpelledBy.own (h : SpelledBy allowed owners) (hd : allowed d) (symbol : String) :
    SpelledBy allowed (Index.own d owners symbol) := by
  intro t ds hds e he
  rw [Index.own, SortedMap.get?_alter] at hds
  split at hds
  · obtain rfl := Option.some.inj hds
    rcases SortedSet.mem_or_eq_of_mem_insertOrdered he with rfl | he
    · exact hd
    · rcases hold : owners.get? symbol with - | old
      · rw [hold] at he
        exact absurd he List.not_mem_nil
      · rw [hold] at he
        exact h symbol old hold e he
  · exact h t ds hds e he

/-- To disown a symbol keeps owners in allowed spellings. -/
theorem SpelledBy.disown (h : SpelledBy allowed owners) (symbol : String) :
    SpelledBy allowed (Index.disown d owners symbol) := by
  intro t ds hds e he
  rw [Index.disown, SortedMap.get?_alter] at hds
  split at hds
  · rcases hold : owners.get? symbol with - | old
    · rw [hold] at hds
      cases hds
    · rw [hold] at hds
      dsimp only at hds
      split at hds
      · cases hds
      · obtain rfl := Option.some.inj hds
        exact h symbol old hold e (List.mem_filter.1 he).1
  · exact h t ds hds e he

/-- What one step keeps in allowed spellings, a list of steps does. -/
theorem SpelledBy.foldl {step : SortedMap String (SortedSet Path) → String →
      SortedMap String (SortedSet Path)}
    (hstep : ∀ owners symbol, SpelledBy allowed owners → SpelledBy allowed (step owners symbol))
    (h : SpelledBy allowed owners) (symbols : List String) :
    SpelledBy allowed (symbols.foldl step owners) :=
  List.foldlRecOn symbols step h fun owners howners symbol _ ↦ hstep owners symbol howners

end SpelledBy

/-- **Owners are spelled as some event of the history spells them.** -/
theorem spelledBy_ofHistory (history : List Event) :
    SpelledBy (Spells history) (Index.ofHistory history).owners := by
  induction history using List.reverseRecOn with
  | nil =>
    intro symbol ds hds
    cases hds
  | append_singleton history event ih =>
    rw [Index.ofHistory_concat]
    cases event with
    | clear =>
      intro symbol ds hds
      cases hds
    | record d path r =>
      have hmono : SpelledBy (Spells (history ++ [.record d path r]))
          (Index.ofHistory history).owners := fun symbol ds hds e he ↦
        (ih symbol ds hds e he).imp fun _ h ↦ h.imp fun _ h ↦ List.mem_append_left _ h
      have hd : Spells (history ++ [.record d path r]) d :=
        ⟨path, r, List.mem_append_right _ List.mem_cons_self⟩
      exact (hmono.foldl (fun _ symbol h ↦ h.disown symbol) _).foldl
        (fun _ symbol h ↦ h.own hd symbol) _

/-- **The index spells directories only as they were recorded.** -/
theorem spells_of_mem_ownersOf {history : List Event} {symbol : String} {d : Path}
    (h : d ∈ (Index.ofHistory history).ownersOf symbol) : Spells history d := by
  rw [Index.ownersOf] at h
  rcases hds : (Index.ofHistory history).owners.get? symbol with - | ds
  · rw [hds] at h
    exact absurd h List.not_mem_nil
  · rw [hds] at h
    exact spelledBy_ofHistory history symbol ds hds d h

/-- What is found is spelled as it was recorded. -/
theorem spells_of_lookup {history : List Event} {symbol : String} {d : Path}
    (h : (Index.ofHistory history).lookup symbol = .found d) : Spells history d := by
  apply spells_of_mem_ownersOf
  rw [Index.lookup] at h
  split at h
  · cases h
  · next howners =>
    rw [howners, ← Lookup.found.inj h]
    exact List.mem_singleton_self _
  · cases h

end Workspace

end JavaDeps
