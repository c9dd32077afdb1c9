import JavaDeps.Maven.Label
import JavaDeps.Path

/-!
# Labels of directories

The label of the rule that stands for a source directory. By convention the target is named after
the last component of its directory.
-/

namespace JavaDeps.Resolve

/-- How directories get their labels: a function of the path of the directory, as it is seen from
the workspace. The resolver takes any such function. -/
abbrev LabelScheme := Path → Label

/-- The names among components, in their order. Roots, dots and steps to a parent directory are
dropped. -/
def normalNames (cs : List Component) : List String :=
  cs.filterMap fun
    | .normal name => some name
    | _ => none

theorem mem_normalNames_iff {cs : List Component} {name : String} :
    name ∈ normalNames cs ↔ .normal name ∈ cs := by
  rw [normalNames, List.mem_filterMap]
  constructor
  · rintro ⟨c, hc, hname⟩
    cases c with
    | normal s => rwa [← Option.some.inj hname]
    | _ => cases hname
  · exact fun h ↦ ⟨_, h, rfl⟩

@[simp] theorem normalNames_map (names : List String) :
    normalNames (names.map .normal) = names := by
  rw [normalNames, List.filterMap_map]
  exact List.filterMap_some

/-- The label of a rule named after its directory: `//a/b:b` for `a/b`, and `//:root` where there is
no name. -/
def labelOfNames (names : List String) : Label :=
  match names.getLast? with
  | none => ⟨"//:root"⟩
  | some last => ⟨"//" ++ "/".intercalate names ++ ":" ++ last⟩

/-- The scheme by which rules are named after their directories. It looks at names only, so that two
spellings of a directory that differ in dots and separators get one label. -/
def LabelScheme.conventional : LabelScheme := fun directory ↦
  labelOfNames (normalNames directory.components)

end JavaDeps.Resolve
