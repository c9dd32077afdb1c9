import JavaDeps.Proofs.Config.Acceptance
import JavaDeps.Proofs.Path.Anchoring

/-!
# Roots of different kinds

A directory that is a root of two kinds would give its units two kinds. The check compares roots as
they are written, by their components, and they are seen from a workspace only later. **It finds
every shared directory that is written without detours**; `src`, `./src` and `lib/../src` are one
directory to all later steps and three roots to the check, and so are `src` and `../work/src` in the
workspace `/work`.
-/

namespace JavaDeps.Config

/-- **Where an accepted configuration still has a directory of two kinds.** Roots of two kinds are
one directory exactly if they climb alike and clean to one path, with a detour in one of them at
least, or if they climb differently and one of them comes by where the other starts. So settled
roots that climb alike are never one directory. -/
theorem clean_join_eq_iff_of_validate {c : Config} (hvalidate : c.validate = .ok ())
    {kind kind' : Resolve.UnitKind} (hkind : kind ≠ kind') {a b : Path}
    (ha : a ∈ c.resolver.rootsOf kind) (hb : b ∈ c.resolver.rootsOf kind') (workspace : Path) :
    (workspace.join a).clean = (workspace.join b).clean ↔
      (a.climb = b.climb ∧ a.clean = b.clean ∧ ¬(a.IsSettled ∧ b.IsSettled)) ∨
        (a.climb ≠ b.climb ∧ (workspace.ComesBy a b ∨ workspace.ComesBy b a)) := by
  obtain ⟨-, hresolver⟩ := validate_eq_ok_iff.1 hvalidate
  have hapart : a.components ≠ b.components := hresolver.rootsApart kind kind' hkind a ha b hb
  by_cases hclimb : a.climb = b.climb
  · have hsettled : a.clean = b.clean → ¬(a.IsSettled ∧ b.IsSettled) := fun heq hsettled ↦
      hapart ((hsettled.1.clean_eq_clean_iff hsettled.2).1 heq)
    rw [Path.clean_join_eq_iff_of_climb hclimb]
    constructor
    · exact fun heq ↦ .inl ⟨hclimb, heq, hsettled heq⟩
    · rintro (⟨-, heq, -⟩ | ⟨hne, -⟩)
      · exact heq
      · exact absurd hclimb hne
  · rw [Path.clean_join_eq_iff]
    constructor
    · exact fun h ↦ .inr ⟨hclimb, h⟩
    · rintro (⟨heq, -⟩ | ⟨-, h⟩)
      · exact absurd heq hclimb
      · exact h

/-- Sources and tests beside one another are two directories. -/
theorem clean_join_eq_iff_of_validate_of_siblings :
    let c : Config :=
      { Config.standard 1 with
        resolver := { sourceRoots := [⟨"../lib/main"⟩], testRoots := [⟨"../lib//test/"⟩] } }
    c.validate = .ok () ∧
      (Path.join ⟨"/work"⟩ ⟨"../lib/main"⟩).clean ≠
        (Path.join ⟨"/work"⟩ ⟨"../lib//test/"⟩).clean := by
  intro c
  have hvalidate : c.validate = .ok () := validate_eq_ok_iff_fault?.2 (by decide +kernel)
  have hkind : Resolve.UnitKind.library ≠ .test := by decide
  refine ⟨hvalidate, fun heq ↦ ?_⟩
  rcases (clean_join_eq_iff_of_validate hvalidate hkind List.mem_cons_self List.mem_cons_self
    ⟨"/work"⟩).1 heq with ⟨-, -, hdetour⟩ | ⟨hclimb, -⟩
  · exact hdetour ⟨by decide +kernel, by decide +kernel⟩
  · exact hclimb (by decide +kernel)

/-- A leading `.` hides from the check that a source root is a test root too. -/
theorem not_forall_clean_join_ne :
    ¬∀ (c : Config) (workspace : Path), c.validate = .ok () →
      ∀ kind kind', kind ≠ kind' → ∀ a ∈ c.resolver.rootsOf kind, ∀ b ∈ c.resolver.rootsOf kind',
        (workspace.join a).clean ≠ (workspace.join b).clean := by
  intro h
  let c : Config :=
    { Config.standard 1 with resolver := { sourceRoots := [⟨"src"⟩], testRoots := [⟨"./src"⟩] } }
  have hvalidate : c.validate = .ok () := validate_eq_ok_iff_fault?.2 (by decide +kernel)
  exact h c ⟨"."⟩ hvalidate .library .test (by decide) ⟨"src"⟩ List.mem_cons_self ⟨"./src"⟩
    List.mem_cons_self (by decide +kernel)

end JavaDeps.Config
