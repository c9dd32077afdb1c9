import JavaDeps.Config.Validation
import JavaDeps.Resolve.Unit

/-!
# What is accepted

A check stops at the first fault, so that it says nothing about what comes after. **A configuration
is accepted exactly if all of its values are sound** (`validate_eq_ok_iff`), and then the order of
the checks does not matter. What is wrong with a configuration apart from its patterns is reported
before the patterns are looked at (`validate_eq`).
-/

namespace JavaDeps.Config

/-- Nothing is wrong if no guard finds a fault. -/
theorem ite_some_eq_none_iff {p : Prop} [Decidable p] {fault : Failure} {others : Option Failure} :
    (if p then some fault else others) = none ↔ ¬p ∧ others = none := by
  split <;> simp_all

theorem any_isBlankText_eq_false_iff {names : List String} :
    ¬names.any isBlankText = true ↔ ∀ name ∈ names, isBlankText name = false := by
  rw [Bool.not_eq_true, List.any_eq_false]
  simp only [Bool.not_eq_true]

/-! ### The parser section -/

/-- The values that a parser section may have: a program with a name, a worker at least, some time
for each of the two timeouts, and no blank level. -/
structure ParserConfig.IsSound (c : ParserConfig) : Prop where
  command : ∃ program args, c.command = program :: args ∧ isBlankText program = false
  poolSize : c.poolSize ≠ 0
  requestTimeout : c.requestTimeout.millis ≠ 0
  shutdownTimeout : c.shutdownTimeout.millis ≠ 0
  logLevel : ∀ level ∈ c.logLevel, isBlankText level = false

/-- The section on the parser has no fault just if it is sound. -/
theorem ParserConfig.fault?_eq_none_iff {c : ParserConfig} : c.fault? = none ↔ c.IsSound := by
  rw [fault?]
  split
  · next hnil =>
    refine ⟨fun h ↦ (Option.some_ne_none _ h).elim, fun h ↦ ?_⟩
    obtain ⟨program, args, hcommand, -⟩ := h.command
    exact (List.cons_ne_nil program args (hcommand.symm.trans hnil)).elim
  · next program args hcommand =>
    have hlevel : ¬c.logLevel.any isBlankText = true ↔
        ∀ level ∈ c.logLevel, isBlankText level = false := by
      cases c.logLevel <;> simp
    have hprogram : ¬isBlankText program = true ↔
        ∃ program args, c.command = program :: args ∧ isBlankText program = false := by
      simp [hcommand]
    simp only [ite_some_eq_none_iff, and_true, hlevel, hprogram]
    exact ⟨fun ⟨hprogram, hsize, hrequest, hshutdown, hlevel⟩ ↦
        ⟨hprogram, hsize, hrequest, hshutdown, hlevel⟩,
      fun h ↦ ⟨h.command, h.poolSize, h.requestTimeout, h.shutdownTimeout, h.logLevel⟩⟩

/-- A fault of the parser section names one of its settings. -/
theorem ParserConfig.exists_eq_invalid {c : ParserConfig} {fault : Failure}
    (h : c.fault? = some fault) :
    ∃ setting reason, fault = .invalid ("parser." ++ setting) reason := by
  rw [fault?] at h
  repeat' split at h
  all_goals cases h
  · exact ⟨"command", _, rfl⟩
  · exact ⟨"command", _, rfl⟩
  · exact ⟨"pool_size", _, rfl⟩
  · exact ⟨"request_timeout_ms", _, rfl⟩
  · exact ⟨"shutdown_timeout_ms", _, rfl⟩
  · exact ⟨"log_level", _, rfl⟩

/-! ### The resolver section -/

theorem isAmong_iff {p : Path} {paths : List Path} :
    isAmong p paths = true ↔ ∃ q ∈ paths, q.components = p.components := by
  simp [isAmong, Path.same]

namespace ResolverConfig

/-- The roots of a kind. -/
def rootsOf (c : ResolverConfig) : Resolve.UnitKind → List Path
  | .library => c.sourceRoots
  | .test => c.testRoots
  | .generated => c.generatedRoots

/-- Whether roots of different kinds have different components. This is what is checked of them, and
it says nothing about roots that are cleaned to the same path. -/
def HasRootsApart (c : ResolverConfig) : Prop :=
  ∀ kind kind', kind ≠ kind' →
    ∀ a ∈ c.rootsOf kind, ∀ b ∈ c.rootsOf kind', a.components ≠ b.components

theorem sharedGenerated?_eq_none_iff {c : ResolverConfig} :
    c.sharedGenerated? = none ↔ ∀ a ∈ c.generatedRoots,
      (∀ b ∈ c.sourceRoots, b.components ≠ a.components) ∧
        ∀ b ∈ c.testRoots, b.components ≠ a.components := by
  simp [sharedGenerated?, isAmong_iff]

theorem sharedTest?_eq_none_iff {c : ResolverConfig} :
    c.sharedTest? = none ↔
      ∀ a ∈ c.testRoots, ∀ b ∈ c.sourceRoots, b.components ≠ a.components := by
  simp [sharedTest?, isAmong_iff]

/-- Comparing each pair of kinds in one direction is enough. -/
theorem hasRootsApart_iff {c : ResolverConfig} :
    c.HasRootsApart ↔ c.sharedGenerated? = none ∧ c.sharedTest? = none := by
  rw [sharedGenerated?_eq_none_iff, sharedTest?_eq_none_iff]
  constructor
  · intro h
    refine ⟨fun a ha ↦ ⟨fun b hb ↦ ?_, fun b hb ↦ ?_⟩, fun a ha b hb ↦ ?_⟩
    · exact h .library .generated (by decide) b hb a ha
    · exact h .test .generated (by decide) b hb a ha
    · exact h .library .test (by decide) b hb a ha
  · rintro ⟨hgenerated, htest⟩ kind kind' hne a ha b hb
    cases kind <;> cases kind'
    · exact absurd rfl hne
    · exact htest b hb a ha
    · exact (hgenerated b hb).1 a ha
    · exact (htest a ha b hb).symm
    · exact absurd rfl hne
    · exact (hgenerated b hb).2 a ha
    · exact ((hgenerated a ha).1 b hb).symm
    · exact ((hgenerated a ha).2 b hb).symm
    · exact absurd rfl hne

theorem rootFault?_eq_none_iff {c : ResolverConfig} :
    c.rootFault? = none ↔ c.sourceRoots ≠ [] ∧ c.HasRootsApart := by
  rw [rootFault?, ite_some_eq_none_iff, List.isEmpty_iff, hasRootsApart_iff]
  cases c.sharedGenerated? <;> cases c.sharedTest? <;> simp

/-- The values that a resolver section may have: source roots, roots of different kinds apart, no
blank prefixes, and patterns that can be read. -/
structure IsSound (c : ResolverConfig) : Prop where
  sourceRoots : c.sourceRoots ≠ []
  rootsApart : c.HasRootsApart
  jdkPrefixes : ∀ name ∈ c.jdkPrefixes, isBlankText name = false
  patterns : ∀ text ∈ c.runtime.patterns, (Pattern.parse? text).isSome

/-- The section without its patterns. -/
def withoutPatterns (c : ResolverConfig) : ResolverConfig :=
  { c with runtime := { c.runtime with patterns := [] } }

/-- The patterns come last. -/
theorem fault?_eq (c : ResolverConfig) :
    c.fault? = c.withoutPatterns.fault?.or ((badPattern? c.runtime.patterns).map .pattern) := by
  have hroots : c.withoutPatterns.rootFault? = c.rootFault? := rfl
  have hprefixes : c.withoutPatterns.jdkPrefixes = c.jdkPrefixes := rfl
  have hpatterns : badPattern? c.withoutPatterns.runtime.patterns = none := rfl
  rw [fault?, fault?, hroots, hprefixes, hpatterns]
  cases c.rootFault? with
  | some fault => rfl
  | none =>
    show (if _ then _ else _) = Option.or (if _ then _ else _) _
    split <;> rfl

/-- A fault of the roots names a setting of the section on the resolver. -/
theorem exists_eq_invalid_of_rootFault? {c : ResolverConfig} {fault : Failure}
    (h : c.rootFault? = some fault) :
    ∃ setting reason, fault = .invalid ("resolver." ++ setting) reason := by
  rw [rootFault?] at h
  repeat' split at h
  all_goals cases h
  · exact ⟨"source_roots", _, rfl⟩
  · exact ⟨"generated_roots", _, rfl⟩
  · exact ⟨"test_roots", _, rfl⟩

/-- A fault of the resolver section names one of its settings, or is one of its patterns. -/
theorem exists_eq_invalid_or_mem {c : ResolverConfig} {fault : Failure}
    (h : c.fault? = some fault) :
    (∃ setting reason, fault = .invalid ("resolver." ++ setting) reason) ∨
      ∃ text ∈ c.runtime.patterns, fault = .pattern text := by
  rw [fault?] at h
  split at h
  · next hroots =>
    obtain rfl := Option.some.inj h
    exact .inl (exists_eq_invalid_of_rootFault? hroots)
  · split at h
    · obtain rfl := Option.some.inj h
      exact .inl ⟨"jdk_prefixes", _, rfl⟩
    · obtain ⟨text, htext, rfl⟩ := Option.map_eq_some_iff.1 h
      exact .inr ⟨text, List.mem_of_find?_eq_some htext, rfl⟩

end ResolverConfig

theorem badPattern?_eq_none_iff {patterns : List String} :
    badPattern? patterns = none ↔ ∀ text ∈ patterns, (Pattern.parse? text).isSome := by
  simp [badPattern?, Option.isSome_iff_ne_none]

/-- The section on the resolver has no fault just if it is sound. -/
theorem ResolverConfig.fault?_eq_none_iff {c : ResolverConfig} : c.fault? = none ↔ c.IsSound := by
  rw [fault?]
  cases hroots : c.rootFault? with
  | some fault =>
    refine ⟨fun h ↦ (Option.some_ne_none _ h).elim, fun h ↦ ?_⟩
    rw [rootFault?_eq_none_iff.2 ⟨h.sourceRoots, h.rootsApart⟩] at hroots
    exact (Option.some_ne_none _ hroots.symm).elim
  | none =>
    obtain ⟨hsources, hapart⟩ := rootFault?_eq_none_iff.1 hroots
    show (if _ then _ else _) = none ↔ _
    rw [ite_some_eq_none_iff, any_isBlankText_eq_false_iff, Option.map_eq_none_iff,
      badPattern?_eq_none_iff]
    exact ⟨fun ⟨hprefixes, hpatterns⟩ ↦ ⟨hsources, hapart, hprefixes, hpatterns⟩,
      fun h ↦ ⟨h.jdkPrefixes, h.patterns⟩⟩

/-! ### The whole configuration -/

section Validate

variable {c : Config}

theorem validate_eq_error_iff {fault : Failure} :
    c.validate = .error fault ↔ c.parser.fault?.or c.resolver.fault? = some fault := by
  rw [validate]
  cases c.parser.fault?.or c.resolver.fault? <;> simp

theorem validate_eq_ok_iff_fault? :
    c.validate = .ok () ↔ c.parser.fault? = none ∧ c.resolver.fault? = none := by
  rw [← Option.or_eq_none_iff, validate]
  cases c.parser.fault?.or c.resolver.fault? <;> simp

/-- **A configuration is accepted exactly if all of its values are sound.** -/
theorem validate_eq_ok_iff : c.validate = .ok () ↔ c.parser.IsSound ∧ c.resolver.IsSound := by
  rw [validate_eq_ok_iff_fault?, ParserConfig.fault?_eq_none_iff,
    ResolverConfig.fault?_eq_none_iff]

/-- Nothing is wrong with the defaults, on a machine that has a core. -/
theorem validate_standard {cores : Nat} (h : 0 < cores) : (standard cores).validate = .ok () := by
  have hresolver : ({} : ResolverConfig).fault? = none := by decide +kernel
  have hsize : Pool.defaultSize cores ≠ 0 := by
    rw [Pool.defaultSize]
    omega
  have hparser : (ParserConfig.standard cores).IsSound :=
    { command := ⟨referenceWorker, [], rfl, by decide +kernel⟩, poolSize := hsize,
      requestTimeout := Nat.succ_ne_zero _, shutdownTimeout := Nat.succ_ne_zero _,
      logLevel := fun _ hlevel ↦ nomatch hlevel }
  exact validate_eq_ok_iff.2 ⟨hparser, ResolverConfig.fault?_eq_none_iff.1 hresolver⟩

/-- The configuration without its patterns. -/
def withoutPatterns (c : Config) : Config := { c with resolver := c.resolver.withoutPatterns }

/-- What is wrong apart from the patterns is reported; only then are they looked at. -/
theorem validate_eq (c : Config) :
    c.validate =
      match c.withoutPatterns.validate, badPattern? c.resolver.runtime.patterns with
      | .error fault, _ => .error fault
      | .ok (), some text => .error (.pattern text)
      | .ok (), none => .ok () := by
  have hparser : c.withoutPatterns.parser = c.parser := rfl
  have hresolver : c.withoutPatterns.resolver = c.resolver.withoutPatterns := rfl
  rw [validate, validate, hparser, hresolver, c.resolver.fault?_eq, ← Option.or_assoc]
  cases c.parser.fault?.or c.resolver.withoutPatterns.fault? with
  | some fault => rfl
  | none => cases badPattern? c.resolver.runtime.patterns <;> rfl

/-- Without patterns, none is complained about. -/
theorem validate_withoutPatterns_ne (text : String) :
    c.withoutPatterns.validate ≠ .error (.pattern text) := by
  rw [Ne, validate_eq_error_iff, Option.or_eq_some_iff]
  rintro (hparser | ⟨-, hresolver⟩)
  · obtain ⟨setting, reason, heq⟩ := ParserConfig.exists_eq_invalid hparser
    cases heq
  · rcases ResolverConfig.exists_eq_invalid_or_mem hresolver with ⟨_, _, heq⟩ | ⟨_, hmem, _⟩
    · cases heq
    · exact absurd hmem List.not_mem_nil

/-- **A pattern is reported exactly if it is the first that is none, and all else is sound.** -/
theorem validate_eq_error_pattern_iff {text : String} :
    c.validate = .error (.pattern text) ↔
      c.withoutPatterns.validate = .ok () ∧
        badPattern? c.resolver.runtime.patterns = some text := by
  rw [validate_eq]
  cases hvalidate : c.withoutPatterns.validate with
  | error fault =>
    simp only [reduceCtorEq, false_and, iff_false]
    exact hvalidate ▸ validate_withoutPatterns_ne text
  | ok => cases badPattern? c.resolver.runtime.patterns <;> simp

end Validate

end JavaDeps.Config
