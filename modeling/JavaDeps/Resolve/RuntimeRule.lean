import JavaDeps.Pattern.Reader

/-!
# Which classes are needed only at run time

A class of an artifact is needed only to run when it is named by string literals alone, or when its
name matches one of some patterns.
-/

namespace JavaDeps.Resolve

/-- The rule for classes needed only to run. It is asked about classes of artifacts alone: what is
declared in the workspace is needed to compile. -/
structure RuntimeRule where
  /-- Whether classes named by string literals are looked up at all. -/
  reflection : Bool := true
  patterns : List Pattern := []

namespace RuntimeRule

/-- The rule with patterns given as texts; fails with the first that is no pattern. -/
def ofTexts (reflection : Bool) (patterns : List String) : Except String RuntimeRule := do
  let parsed ← patterns.mapM fun text ↦
    match Pattern.parse? text with
    | some p => .ok p
    | none => .error text
  pure ⟨reflection, parsed⟩

/-- Whether one of the patterns matches somewhere in a qualified name. A pattern need not match the
whole of it. -/
def matchesName (rule : RuntimeRule) (symbol : String) : Bool :=
  rule.patterns.any (·.occursIn symbol)

end RuntimeRule

end JavaDeps.Resolve
