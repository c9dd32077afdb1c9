import JavaDeps.Proofs.Java.Chains
import JavaDeps.Proofs.Java.Statements

/-!
# Names that imports put into scope

A single import puts the last segment of its name into scope, and a name in scope is nothing to look
for. **Only the imports that are not static count** (`mem_simpleNames_iff_of_imports`). If a nested
class is imported by a static import, this leads to the class that holds it, as the other form does,
but the name of the nested class stays one to look for.
-/

namespace JavaDeps.Java

/-- The import of a single name. -/
def Import.single (isStatic : Bool) (segments : List String) : Import :=
  ⟨isStatic, ⟨segments, false⟩⟩

section

variable {ls : List Lexeme} {name : String}

/-- What the first reading takes for imported, by the statements that there are. -/
theorem found_imported_iff :
    Found ls (.imported name) ↔ ∃ position segments,
      StatedAt ls position (.importing (.single false segments)) ∧
        segments.getLast? = some name := by
  constructor
  · rintro ⟨pre, l, rest, hls, hfinds⟩
    cases hfinds with
    | imported h hrest hsingle hname =>
      exact ⟨_, _, ⟨pre, l, rest, hls, rfl, .intro h hrest (.importing hsingle)⟩, hname⟩
    | declaration _ _ hm => simp at hm
    | parameter _ _ hm => simp at hm
  · rintro ⟨position, segments, ⟨pre, l, rest, hls, -, ⟨h, hrest, hs⟩⟩, hname⟩
    generalize hs' : Statement.importing (.single false segments) = s at hs
    cases hs with
    | package => cases hs'
    | importing hsingle =>
      cases hs'
      exact ⟨pre, l, rest, hls, .imported h hrest hsingle hname⟩
    | static => cases hs'

end

/-- Whether a simple name of a type is left to be explained by imports: a chain refers to it, and
neither a declaration nor a type parameter has it. -/
structure Unexplained (ls : List Lexeme) (name : String) : Prop where
  undeclared : ¬ Found ls (.declared name)
  noParameter : ¬ Found ls (.parameter name)
  referred : ∃ before segments after, RefersIn ls before segments after ∧
    RefersTo (TypePosition before after) segments (.simple name)

/-- **Which imports keep a simple name out**: the single ones that are not static, and whose last
segment it is. -/
theorem mem_simpleNames_iff_of_imports {source : String} {facts : Facts}
    (h : scan source = .ok facts) (name : String) :
    name ∈ facts.simpleNames ↔ Unexplained (tokens source) name ∧
      ∀ position segments, StatedAt (tokens source) position (.importing (.single false segments)) →
        segments.getLast? ≠ some name := by
  rw [mem_simpleNames_iff h, found_imported_iff]
  constructor
  · rintro ⟨⟨hdeclared, hparameter, himported⟩, hrefers⟩
    exact ⟨⟨hdeclared, hparameter, hrefers⟩, fun position segments hstated hlast ↦
      himported ⟨position, segments, hstated, hlast⟩⟩
  · rintro ⟨⟨hdeclared, hparameter, hrefers⟩, himports⟩
    exact ⟨⟨hdeclared, hparameter, fun ⟨position, segments, hstated, hlast⟩ ↦
      himports position segments hstated hlast⟩, hrefers⟩

/-- A source that imports two nested classes, one of them by a static import. -/
def nesting : String :=
  "package b; import static a.Outer.Inner; import a.Outer.Other; class X { Inner i; Other o; }"

theorem simpleNames_nesting : ∃ facts, scan nesting = .ok facts ∧
    facts.simpleNames.toList = ["Inner"] :=
  exists_eq_ok_of_map (fun facts : Facts ↦ facts.simpleNames.toList) (by decide +kernel)

/-- Of the two, the one that is imported without `static` is kept out. -/
theorem mem_simpleNames_iff_of_imports_of_nesting : ∃ facts, scan nesting = .ok facts ∧
    Unexplained (tokens nesting) "Inner" ∧ "Other" ∉ facts.simpleNames := by
  obtain ⟨facts, h, hnames⟩ := simpleNames_nesting
  have hinner : "Inner" ∈ facts.simpleNames := by simp [SortedSet.mem_iff, hnames]
  exact ⟨facts, h, ((mem_simpleNames_iff_of_imports h "Inner").1 hinner).1,
    by simp [SortedSet.mem_iff, hnames]⟩

/-- **A name that a static import names is not kept out.** -/
theorem not_forall_not_mem_simpleNames_of_imported :
    ¬ ∀ source facts position isStatic segments name, scan source = .ok facts →
      StatedAt (tokens source) position (.importing (.single isStatic segments)) →
      segments.getLast? = some name → name ∉ facts.simpleNames := by
  intro hall
  obtain ⟨facts, h, hnames⟩ := simpleNames_nesting
  obtain ⟨o, houtline, himports⟩ : ∃ o, outline (tokens nesting) = .ok o ∧ o.imports =
      [.single true ["a", "Outer", "Inner"], .single false ["a", "Outer", "Other"]] :=
    exists_eq_ok_of_map (fun o : Outline ↦ o.imports) (by decide +kernel)
  obtain ⟨position, hstated⟩ :=
    ((outline_takes houtline).1 (.single true ["a", "Outer", "Inner"])).1 (by simp [himports])
  have hinner := hall _ _ _ _ _ "Inner" h hstated rfl
  simp [SortedSet.mem_iff, hnames] at hinner

end JavaDeps.Java
