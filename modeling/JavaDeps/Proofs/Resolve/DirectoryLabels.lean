import JavaDeps.Proofs.Maven.LockedClasses
import JavaDeps.Proofs.Path.Spelling
import JavaDeps.Proofs.Resolve.Exactness
import JavaDeps.Proofs.Resolve.ImportedTypes

/-!
# Labels tell directories apart

By convention a label spells the names that lead to its directory and then, behind a colon, the
last of them once more. Names may hold colons of their own, so the text does not show which colon
divides the two. **It gives the names away all the same** (`labelOfNames_inj`): no name holds a
slash, so the label falls apart at its slashes, and its last part is the last name twice with one
character in between. The label of the workspace itself has no such part.

A unit finds labels of other directories and of artifacts. So **only an artifact can make a unit
depend on its own label** (`conventional_tells_apart`).
-/

namespace JavaDeps.Resolve

open Workspace (Event Index)
open Java (Reference)

/-- Whether a path names a directory of the workspace plainly: the workspace itself, or what the
names on the way lead to. -/
inductive IsUnitDirectory (d : Path) : Prop
  | workspace (h : d.components = [.current])
  | below {names : List String} (hne : names ≠ []) (h : d.components = names.map .normal)

/-- Whether a path is the directory of a unit does not depend on how it is spelled. -/
theorem IsUnitDirectory.congr {d e : Path} (h : IsUnitDirectory d) (hsame : d.same e = true) :
    IsUnitDirectory e := by
  rw [Path.same, beq_iff_eq] at hsame
  cases h with
  | workspace h => exact .workspace (hsame.symm.trans h)
  | below hne h => exact .below hne (hsame.symm.trans h)

/-! ### Labels give names away -/

/-- What stands behind joined pieces stands behind the last of them. -/
theorem intercalate_concat_append {α : Type} (sep : List α) (pieces : List (List α))
    (last more : List α) :
    sep.intercalate (pieces ++ [last]) ++ more = sep.intercalate (pieces ++ [last ++ more]) := by
  induction pieces with
  | nil => simp
  | cons piece pieces ih =>
    rw [List.cons_append, List.cons_append, List.intercalate_cons_of_ne_nil (by simp),
      List.intercalate_cons_of_ne_nil (by simp), ← ih]
    simp only [List.append_assoc]

/-- The parts between the slashes of a label: the names above its directory, and the last name
twice. -/
theorem text_labelOfNames_concat (above : List String) (name : String) :
    (labelOfNames (above ++ [name])).text.toList = '/' :: '/' ::
      ['/'].intercalate (above.map String.toList ++ [name.toList ++ ':' :: name.toList]) := by
  have hsigns : "//".toList = ['/', '/'] ∧ "/".toList = ['/'] ∧ ":".toList = [':'] :=
    ⟨rfl, rfl, rfl⟩
  rw [labelOfNames, List.getLast?_concat]
  simp only [String.toList_append, String.toList_intercalate, hsigns, List.map_append,
    List.map_singleton]
  rw [← intercalate_concat_append]
  simp

/-- What stands twice, with one element in between, is known by the whole. -/
theorem eq_of_append_cons_self {α : Type} {a : α} {l l' : List α}
    (h : l ++ a :: l = l' ++ a :: l') : l = l' := by
  have hlength : (l ++ a :: l).length = (l' ++ a :: l').length := congrArg List.length h
  simp only [List.length_append, List.length_cons] at hlength
  exact (List.append_inj h (by omega)).1

/-- The parts of a label between its slashes. -/
theorem splitOn_labelOfNames_concat {above : List String} {name : String}
    (h : ∀ s ∈ above ++ [name], '/' ∉ s.toList) :
    (labelOfNames (above ++ [name])).text.toList.splitOn '/' =
      [] :: [] :: (above.map String.toList ++ [name.toList ++ ':' :: name.toList]) := by
  have hparts : ∀ part ∈ above.map String.toList ++ [name.toList ++ ':' :: name.toList],
      '/' ∉ part := by
    intro part hpart
    rcases List.mem_append.1 hpart with hpart | hpart
    · obtain ⟨s, hs, rfl⟩ := List.mem_map.1 hpart
      exact h s (List.mem_append_left _ hs)
    · have hname := h name (List.mem_append_right _ List.mem_cons_self)
      rw [List.mem_singleton.1 hpart]
      simpa using hname
  rw [text_labelOfNames_concat, ← List.nil_append ('/' :: '/' :: _), List.splitOn_append_cons_self,
    ← List.nil_append ('/' :: List.intercalate _ _), List.splitOn_append_cons_self,
    List.splitOn_intercalate '/' hparts (by simp)]
  rfl

/-- The label of the workspace is that of no other directory. -/
theorem labelOfNames_nil_ne {above : List String} {name : String}
    (h : ∀ s ∈ above ++ [name], '/' ∉ s.toList) :
    labelOfNames [] ≠ labelOfNames (above ++ [name]) := by
  intro heq
  have hroot : (labelOfNames []).text.toList.splitOn '/' = [[], [], [':', 'r', 'o', 'o', 't']] := by
    decide
  rw [heq, splitOn_labelOfNames_concat h, List.cons.injEq, List.cons.injEq] at hroot
  obtain ⟨-, hlast⟩ := List.append_inj' (hroot.2.2.trans (List.nil_append _).symm) rfl
  have hname := (List.cons.inj hlast).1
  -- a second colon would have to stand behind the first letter
  rcases hletters : name.toList with - | ⟨c, rest⟩ <;> rw [hletters] at hname
  · cases hname
  · have hcolon : ':' ∈ ['r', 'o', 'o', 't'] := by
      rw [← (List.cons.inj hname).2]
      simp
    revert hcolon
    decide

/-- **A label gives away the names that lead to its directory**, colons or not. -/
theorem labelOfNames_inj {names names' : List String} (hnames : ∀ s ∈ names, '/' ∉ s.toList)
    (hnames' : ∀ s ∈ names', '/' ∉ s.toList) (h : labelOfNames names = labelOfNames names') :
    names = names' := by
  rcases List.eq_nil_or_concat' names with rfl | ⟨above, name, rfl⟩ <;>
    rcases List.eq_nil_or_concat' names' with rfl | ⟨above', name', rfl⟩
  · rfl
  · exact absurd h (labelOfNames_nil_ne hnames')
  · exact absurd h.symm (labelOfNames_nil_ne hnames)
  · have hsplit := splitOn_labelOfNames_concat hnames
    rw [h, splitOn_labelOfNames_concat hnames', List.cons.injEq, List.cons.injEq] at hsplit
    obtain ⟨habove, hlast⟩ := List.append_inj' hsplit.2.2 rfl
    have hname : name'.toList = name.toList := eq_of_append_cons_self (List.cons.inj hlast).1
    have hsame : above' = above :=
      List.map_injective_iff.2 (fun _ _ ↦ String.toList_injective) habove
    rw [hsame, String.toList_inj.1 hname]

/-- A directory is known by the names that lead to it. -/
theorem IsUnitDirectory.components_eq {d : Path} (h : IsUnitDirectory d) :
    d.components = if normalNames d.components = [] then [.current]
      else (normalNames d.components).map .normal := by
  cases h with
  | workspace h =>
    rw [h]
    rfl
  | @below names hne h =>
    have hnames : normalNames d.components = names := by rw [h, normalNames_map]
    rw [hnames, if_neg hne, h]

theorem slash_not_mem_normalNames (d : Path) :
    ∀ s ∈ normalNames d.components, '/' ∉ s.toList :=
  fun _ hs ↦ (Path.isName_of_mem_components (mem_normalNames_iff.1 hs)).2

/-- **Two directories have one label only if they are one.** -/
theorem conventional_eq_iff {d e : Path} (hd : IsUnitDirectory d) (he : IsUnitDirectory e) :
    LabelScheme.conventional d = LabelScheme.conventional e ↔ d.same e = true := by
  refine ⟨fun h ↦ ?_, LabelScheme.conventional_congr⟩
  have hnames : normalNames d.components = normalNames e.components :=
    labelOfNames_inj (slash_not_mem_normalNames d) (slash_not_mem_normalNames e) h
  rw [Path.same, beq_iff_eq, hd.components_eq, he.components_eq, hnames]

/-! ### Where the labels of a unit come from -/

namespace Resolver

variable {r : Resolver} {history : List Event} {directory : Path}

/-- Whether a label is that of another directory, which the workspace finds for some symbol. -/
def FromDirectory (r : Resolver) (directory : Path) (label : Label) : Prop :=
  ∃ symbol owner, r.index.lookup symbol = .found owner ∧ owner.same directory = false ∧
    r.labels owner = label

/-- Whether a label is that of an artifact, which is found for some class. -/
def FromArtifact (r : Resolver) (label : Label) : Prop :=
  ∃ symbol artifact, r.classes.resolve symbol = .found artifact ∧ artifact.label = label

/-- **What a reference finds is the label of another directory or of an artifact.** -/
theorem from_of_settles {ref : Reference} {label : Label} {c : Classification}
    (h : Settles r history directory ref (.found label c)) :
    r.FromDirectory directory label ∨ r.FromArtifact label := by
  have hworkspace {symbol : String} (hin : InWorkspace r directory symbol (.found label c)) :
      r.FromDirectory directory label := by
    cases hin with
    | other hlookup hother => exact ⟨_, _, hlookup, hother, rfl⟩
  have hindexed {usage : Usage} {symbol : String}
      (hin : Indexed r directory usage symbol (.found label c)) :
      r.FromDirectory directory label ∨ r.FromArtifact label := by
    cases hin with
    | workspace hin => exact .inl (hworkspace hin)
    | lockFile _ hin =>
      cases hin with
      | toRun hfound _ => exact .inr ⟨_, _, hfound, rfl⟩
      | toCompile hfound _ => exact .inr ⟨_, _, hfound, rfl⟩
  cases h with
  | qualified hsettles =>
    cases hsettles with
    | indexed hin => exact hindexed hin
  | reflective hsettles =>
    cases hsettles with
    | indexed hin => exact hindexed hin
  | simple hsettles =>
    cases hsettles with
    | own _ hin => exact .inl (hworkspace hin)
    | wildcard _ hin => exact hindexed hin

/-- **Each label of a unit comes from a directory or from an artifact.** -/
theorem from_of_mem_labels (hindex : r.index = Index.ofHistory history) {kind : UnitKind}
    {label : Label} (h : label ∈ (r.resolveUnit directory kind).deps ∨
      label ∈ (r.resolveUnit directory kind).runtimeDeps) :
    r.FromDirectory directory label ∨ r.FromArtifact label := by
  have hlabels : HasLabels (r.Finds history directory) (r.resolveUnit directory kind) :=
    hasLabels_resolveUnit hindex kind
  rw [hlabels.mem_deps, hlabels.mem_runtimeDeps] at h
  obtain ⟨c, ref, -, hsettles⟩ : ∃ c, r.Finds history directory label c :=
    h.elim (fun h ↦ ⟨_, h⟩) fun h ↦ ⟨_, h.1⟩
  exact from_of_settles hsettles

end Resolver

/-- A directory that the workspace finds is listed in the index, in some spelling. -/
theorem exists_mem_directories {history : List Event} {symbol : String} {owner : Path}
    (h : (Index.ofHistory history).lookup symbol = .found owner) :
    ∃ d ∈ (Index.ofHistory history).directories, d.same owner = true := by
  have hanswers := Workspace.answers_ofHistory history
  have hlookup := hanswers.lookup symbol
  rw [h] at hlookup
  obtain ⟨record, hrecord, -⟩ := (hlookup owner).2 (beq_self_eq_true _)
  exact (hanswers.directories.mem_iff owner).1 ⟨record, hrecord⟩

/-- **Labels tell directories apart**, and so a unit depends on its own label only through an
artifact. Two directories that are named plainly have the same conventional label exactly if they
are the same. And where all directories of an index are named plainly, a unit lists its own label
only if an artifact of the lock file carries that label, and provides a class. -/
theorem conventional_tells_apart :
    (∀ d e, IsUnitDirectory d → IsUnitDirectory e →
      (LabelScheme.conventional d = LabelScheme.conventional e ↔ d.same e = true)) ∧
    ∀ (history : List Event) (lock : Maven.LockFile) (classes : Maven.ClassIndex)
      (options : Options), Maven.ClassIndex.ofLockFile lock = .ok classes →
      (∀ d ∈ (Index.ofHistory history).directories, IsUnitDirectory d) →
      ∀ d ∈ (Index.ofHistory history).directories, ∀ kind,
        let r : Resolver :=
          { index := .ofHistory history, classes, labels := .conventional, options }
        let unit := r.resolveUnit d kind
        LabelScheme.conventional d ∈ unit.deps ∨ LabelScheme.conventional d ∈ unit.runtimeDeps →
          ∃ symbol a, Maven.Provides lock symbol a ∧ a.label = LabelScheme.conventional d := by
  refine ⟨fun d e ↦ conventional_eq_iff, ?_⟩
  intro history lock classes options hclasses hplain d hd kind r unit hown
  rcases Resolver.from_of_mem_labels (r := r) rfl hown with
    ⟨symbol, owner, hlookup, hother, hlabel⟩ | ⟨symbol, a, hfound, hlabel⟩
  · -- the other directory is named plainly too, so it is no other one
    obtain ⟨e, he, hsame⟩ := exists_mem_directories hlookup
    have howner : IsUnitDirectory owner := (hplain e he).congr hsame
    rw [(conventional_eq_iff howner (hplain d hd)).1 hlabel] at hother
    cases hother
  · have hmeans := Maven.ClassIndex.means_resolve hclasses symbol
    have hmem : a ∈ (classes.resolve symbol).artifacts := by
      rw [show classes.resolve symbol = .found a from hfound]
      exact List.mem_singleton_self a
    exact ⟨symbol, a, ((hmeans.mem_artifacts a).1 hmem).isKind, hlabel⟩

/-- A lock file with an artifact that goes by the label of a directory with a colon in its name. -/
def masked : Maven.LockFile where
  version := 1
  artifacts := [⟨"g:a:1", some "//x:y:x:y", ["p.A"]⟩]

/-- Such an artifact makes the unit of the directory list its own label. -/
theorem conventional_tells_apart_of_masked :
    let uses : Workspace.FileRecord := ⟨⟨[]⟩, { imports := .ofList ["p.A"] }⟩
    let history : List Event :=
      [.record ⟨"x:y"⟩ ⟨"x:y/B.java"⟩ uses, .record ⟨"."⟩ ⟨"C.java"⟩ ⟨⟨[]⟩, {}⟩]
    ∃ classes, Maven.ClassIndex.ofLockFile masked = .ok classes ∧
      let r : Resolver := { index := .ofHistory history, classes }
      LabelScheme.conventional ⟨"x:y"⟩ ∈ (r.resolveUnit ⟨"x:y"⟩ .library).deps ∧
        ∃ symbol a, Maven.Provides masked symbol a ∧
          a.label = LabelScheme.conventional ⟨"x:y"⟩ := by
  intro uses history
  have hclasses : Maven.ClassIndex.ofLockFile masked =
      .ok ⟨[⟨⟨⟨"g", "a", none, none, "1"⟩, ⟨"//x:y:x:y"⟩⟩, ["p.A"]⟩]⟩ := by decide +kernel
  have hplain : ∀ d ∈ (Index.ofHistory history).directories, IsUnitDirectory d := by
    have hdirectories : (Index.ofHistory history).directories = [⟨"."⟩, ⟨"x:y"⟩] := by
      decide +kernel
    rw [hdirectories, List.forall_mem_cons, List.forall_mem_singleton]
    exact ⟨.workspace (by decide +kernel), .below (List.cons_ne_nil "x:y" []) (by decide +kernel)⟩
  have hown : LabelScheme.conventional ⟨"x:y"⟩ ∈ (Resolver.resolveUnit
      { index := .ofHistory history
        classes := ⟨[⟨⟨⟨"g", "a", none, none, "1"⟩, ⟨"//x:y:x:y"⟩⟩, ["p.A"]⟩]⟩ }
      ⟨"x:y"⟩ .library).deps := by decide +kernel
  exact ⟨_, hclasses, hown, conventional_tells_apart.2 history masked _ {} hclasses hplain ⟨"x:y"⟩
    (by decide +kernel) .library (.inl hown)⟩

end JavaDeps.Resolve
