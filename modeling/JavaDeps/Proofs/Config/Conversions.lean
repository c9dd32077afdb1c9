import JavaDeps.Config.Use
import JavaDeps.Proofs.Config.Acceptance

/-!
# What an accepted configuration converts to

The checks and the conversions are written apart, in the words of different parts of the program.
They agree: the command is accepted if it starts a worker (`exists_workerCommand_iff`), the sizes
and times if the pool takes them (`Pool.Options.fault?_eq_none_iff`), and the patterns if the
resolver can be built (`resolverOptions_eq`). **So nothing fails on an accepted configuration, and a
pattern that is none has the same name everywhere** (`conversions_of_validate`).
-/

namespace JavaDeps

/-- What the pool asks of its options. -/
theorem Pool.Options.fault?_eq_none_iff {o : Pool.Options} :
    o.fault? = none ↔ o.size ≠ 0 ∧ o.requestTimeout.millis ≠ 0 := by
  rw [fault?]
  split
  · simp_all
  · split <;> simp_all

namespace Config

/-! ### Commands -/

variable {c : Config}

/-- A command that names a program is taken word for word, with the level of the log at its end if
one is set. -/
theorem workerCommand_eq {program : String} {args : List String}
    (hcommand : c.parser.command = program :: args) (hprogram : isBlankText program = false) :
    c.workerCommand = .ok
      (c.parser.logLevel.elim { program, args } (Worker.Command.logLevel { program, args })) := by
  have hargv : Worker.Command.ofArgv (program :: args) = .ok { program, args } :=
    if_neg (Bool.eq_false_iff.1 hprogram)
  rw [workerCommand, hcommand, hargv]

/-- **A worker can be started if the program is named.** -/
theorem exists_workerCommand_iff :
    (∃ command, c.workerCommand = .ok command) ↔
      ∃ program args, c.parser.command = program :: args ∧ isBlankText program = false := by
  constructor
  · rintro ⟨command, h⟩
    rw [workerCommand] at h
    cases hcommand : c.parser.command with
    | nil =>
      rw [hcommand] at h
      cases h
    | cons program args =>
      refine ⟨program, args, rfl, Bool.eq_false_iff.2 fun hblank ↦ ?_⟩
      have hargv : Worker.Command.ofArgv (program :: args) =
          .error (.invalidConfig "worker command is empty") := if_pos hblank
      rw [hcommand, hargv] at h
      cases h
  · rintro ⟨program, args, hcommand, hprogram⟩
    exact ⟨_, workerCommand_eq hcommand hprogram⟩

/-- The options of the pool are those that the configuration has, field by field. -/
theorem poolOptions_eq {command : Worker.Command} (h : c.workerCommand = .ok command) :
    c.poolOptions = .ok
      { command, size := c.parser.poolSize, requestTimeout := c.parser.requestTimeout
        shutdownTimeout := c.parser.shutdownTimeout } := by
  rw [poolOptions, h]
  rfl

/-! ### Patterns -/

/-- Where the first text that is no pattern is found. -/
theorem badPattern?_eq_some_iff {patterns : List String} {bad : String} :
    badPattern? patterns = some bad ↔
      Pattern.parse? bad = none ∧ ∃ good rest, patterns = good ++ bad :: rest ∧
        ∀ text ∈ good, (Pattern.parse? text).isSome := by
  rw [badPattern?, List.find?_eq_some_iff_append]
  simp [Option.isSome_iff_ne_none]

/-- The first bad pattern is the head of the list, or else the first one behind it. -/
theorem badPattern?_cons (text : String) (patterns : List String) :
    badPattern? (text :: patterns) =
      match Pattern.parse? text with
      | none => some text
      | some _ => badPattern? patterns := by
  rw [badPattern?, List.find?_cons]
  cases Pattern.parse? text <;> rfl

/-- A rule is read from its patterns one by one, up to the first that is bad. -/
theorem ofTexts_cons (reflection : Bool) (text : String) (patterns : List String) :
    Resolve.RuntimeRule.ofTexts reflection (text :: patterns) =
      match Pattern.parse? text with
      | none => .error text
      | some p => (Resolve.RuntimeRule.ofTexts reflection patterns).map fun rule ↦
          { rule with patterns := p :: rule.patterns } := by
  rw [Resolve.RuntimeRule.ofTexts, Resolve.RuntimeRule.ofTexts, List.mapM_cons]
  cases Pattern.parse? text with
  | none => rfl
  | some p => cases List.mapM (m := Except String) _ patterns <;> rfl

/-- A rule is built from the patterns, or fails with the text that the check finds. -/
theorem ofTexts_eq (reflection : Bool) (patterns : List String) :
    Resolve.RuntimeRule.ofTexts reflection patterns =
      match badPattern? patterns with
      | some bad => .error bad
      | none => .ok ⟨reflection, patterns.filterMap Pattern.parse?⟩ := by
  induction patterns with
  | nil => rfl
  | cons text patterns ih =>
    rw [ofTexts_cons, ih, badPattern?_cons, List.filterMap_cons]
    cases Pattern.parse? text with
    | none => rfl
    | some p => cases badPattern? patterns <;> rfl

/-- **The resolver gets its options unless a pattern is bad**, and then the first such pattern is
named. -/
theorem resolverOptions_eq (c : Config) :
    c.resolverOptions =
      match badPattern? c.resolver.runtime.patterns with
      | some bad => .error (.pattern bad)
      | none => .ok
          { platform := ⟨c.resolver.jdkPrefixes⟩
            runtime := ⟨c.resolver.runtime.reflection,
              c.resolver.runtime.patterns.filterMap Pattern.parse?⟩ } := by
  rw [resolverOptions, ofTexts_eq]
  cases badPattern? c.resolver.runtime.patterns <;> rfl

/-! ### All of it -/

/-- **What is accepted converts, and its options are those of a pool. A pattern that is none fails
the options of the resolver, and is the one that the check names if it names one.** -/
theorem conversions_of_validate (c : Config) :
    (c.validate = .ok () →
      (∃ command, c.workerCommand = .ok command) ∧
        (∃ options, c.poolOptions = .ok options ∧ options.fault? = none) ∧
        ∃ options, c.resolverOptions = .ok options) ∧
    ((∃ text ∈ c.resolver.runtime.patterns, Pattern.parse? text = none) →
      ∃ good bad rest, c.resolver.runtime.patterns = good ++ bad :: rest ∧
        (∀ text ∈ good, (Pattern.parse? text).isSome) ∧ Pattern.parse? bad = none ∧
        c.resolverOptions = .error (.pattern bad) ∧
        ∀ text, c.validate = .error (.pattern text) ↔
          c.withoutPatterns.validate = .ok () ∧ text = bad) := by
  constructor
  · intro h
    obtain ⟨hparser, hresolver⟩ := validate_eq_ok_iff.1 h
    obtain ⟨command, hcommand⟩ := exists_workerCommand_iff.2 hparser.command
    have hpatterns := badPattern?_eq_none_iff.2 hresolver.patterns
    refine ⟨⟨command, hcommand⟩, ⟨_, poolOptions_eq hcommand, ?_⟩, ?_⟩
    · exact Pool.Options.fault?_eq_none_iff.2 ⟨hparser.poolSize, hparser.requestTimeout⟩
    · rw [resolverOptions_eq, hpatterns]
      exact ⟨_, rfl⟩
  · rintro ⟨text, htext, hparse⟩
    cases hbad : badPattern? c.resolver.runtime.patterns with
    | none =>
      have hsome := badPattern?_eq_none_iff.1 hbad text htext
      rw [hparse] at hsome
      cases hsome
    | some bad =>
      obtain ⟨hnone, good, rest, hpatterns, hgood⟩ := badPattern?_eq_some_iff.1 hbad
      have hoptions : c.resolverOptions = .error (.pattern bad) := by
        rw [resolverOptions_eq, hbad]
      refine ⟨good, bad, rest, hpatterns, hgood, hnone, hoptions, fun text ↦ ?_⟩
      rw [validate_eq_error_pattern_iff, hbad, Option.some.injEq, eq_comm (a := bad)]

/-- A bracket that is left open in the second pattern is reported, by the check and by the
options. -/
theorem conversions_of_validate_of_unclosed :
    let config : List String → Config := fun patterns ↦
      { Config.standard 1 with resolver := { runtime := { patterns } } }
    ((config ["[.]Driver$"]).validate = .ok () ∧
      ∃ options, (config ["[.]Driver$"]).poolOptions = .ok options ∧ options.fault? = none) ∧
    (∃ text ∈ ["[.]Driver$", "[unclosed"], Pattern.parse? text = none) ∧
      (config ["[.]Driver$", "[unclosed"]).validate = .error (.pattern "[unclosed") ∧
      (config ["[.]Driver$", "[unclosed"]).resolverOptions = .error (.pattern "[unclosed") := by
  intro config
  have haccepted : (config ["[.]Driver$"]).validate = .ok () :=
    validate_eq_ok_iff_fault?.2 (by decide +kernel)
  have hnone : ∃ text ∈ ["[.]Driver$", "[unclosed"], Pattern.parse? text = none :=
    ⟨"[unclosed", by decide, Option.isNone_iff_eq_none.1 (by decide +kernel)⟩
  have hreported : (config ["[.]Driver$", "[unclosed"]).validate = .error (.pattern "[unclosed") :=
    validate_eq_error_iff.2 (by decide +kernel)
  obtain ⟨good, bad, rest, -, -, -, hoptions, hnamed⟩ :=
    (conversions_of_validate (config _)).2 hnone
  rw [← ((hnamed _).1 hreported).2] at hoptions
  exact ⟨⟨haccepted, ((conversions_of_validate (config _)).1 haccepted).2.1⟩, hnone, hreported,
    hoptions⟩

end Config

end JavaDeps
